import ConfigTemplate.Json.Basic

/-!
# Flat documents

A flat document gives each leaf of a document by the text of its path, in document order. Paths
are distinct.
-/

namespace ConfigTemplate

/-- Values by path, in order of insertion. -/
structure Flat where
  entries : List (String × Json)
  distinct : (Entries.keys entries).Nodup

namespace Flat

/-- No values. -/
def empty : Flat := ⟨[], by simp⟩

instance : Inhabited Flat := ⟨empty⟩

/-- The flat document of some pairs. A repeated path keeps its first place and takes its last
value. -/
def ofList (pairs : List (String × Json)) : Flat :=
  ⟨Entries.ofList pairs, Entries.nodup_keys_ofList pairs⟩

/-- The paths in order. -/
def keys (flat : Flat) : List String := Entries.keys flat.entries

/-- The number of values. -/
def size (flat : Flat) : Nat := flat.entries.length

/-- The value at a path. -/
def get? (flat : Flat) (path : String) : Option Json := Entries.get? path flat.entries

/-- Whether there is a value at a path. -/
def contains (flat : Flat) (path : String) : Bool := (flat.get? path).isSome

/-- Store a value: in place of the present one, or at the end. -/
def put (flat : Flat) (path : String) (value : Json) : Flat :=
  ⟨Entries.put path value flat.entries, Entries.nodup_keys_put flat.distinct value⟩

instance : Membership String Flat := ⟨fun flat path => path ∈ flat.keys⟩

instance (path : String) (flat : Flat) : Decidable (path ∈ flat) :=
  inferInstanceAs (Decidable (path ∈ flat.keys))

@[ext] theorem ext {a b : Flat} (h : a.entries = b.entries) : a = b := by
  cases a; cases b; cases h; rfl

theorem nodup_keys (flat : Flat) : flat.keys.Nodup := flat.distinct

@[simp] theorem get?_put_self (flat : Flat) (path : String) (value : Json) :
    (flat.put path value).get? path = some value := Entries.get?_put_self ..

theorem get?_put_of_ne (flat : Flat) {path other : String} (h : path ≠ other) (value : Json) :
    (flat.put path value).get? other = flat.get? other := Entries.get?_put_of_ne h ..

theorem keys_put_of_mem {flat : Flat} {path : String} (h : path ∈ flat) (value : Json) :
    (flat.put path value).keys = flat.keys := Entries.keys_put_of_mem h value

end Flat

end ConfigTemplate
