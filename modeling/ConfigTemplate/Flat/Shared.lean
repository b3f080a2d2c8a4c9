import ConfigTemplate.Flat.ToDocument

/-!
# Rebuilding in place

A value that is written into a document is copied one level deep. The containers inside it are
then the same in the flat form and in the document, so what a longer path writes into one of them
is seen in both. `rebuilt` gives the document together with the flat form afterwards;
`rebuilt_fst` says that the document is the one of `toDocument`.
-/

namespace ConfigTemplate.Flat

/-- A container that a document has in common with a value of a flat form. -/
structure Shared where
  /-- The path of the value in the flat form. -/
  key : String
  /-- The number of steps that lead to the value. -/
  depth : Nat
  /-- The steps that lead to the container. -/
  path : Path
  deriving Repr

/-- The containers that a value has in common with a document in which it was written. -/
def sharedBy (key : String) (path : Path) : Json → List Shared
  | .arr items => items.zipIdx.filterMap fun (item, i) =>
      if item.isContainer then some ⟨key, path.length, path ++ [.index i]⟩ else none
  | .obj members => members.filterMap fun (name, value) =>
      if value.isContainer then some ⟨key, path.length, path ++ [.name name]⟩ else none
  | _ => []

/-- A flat form after a write into a document with which it has a container in common. -/
def throughShared (path : Path) (value : Json) (flat : Flat) (shared : Shared) : Flat :=
  if shared.path.isPrefixOf path && shared.path != path then
    match (flat.get? shared.key).map fun held =>
        Path.assign held (path.drop shared.depth) value with
    | some (.ok held) => flat.put shared.key held
    | _ => flat
  else flat

/-- Write values one after the other: the document, and the flat form that was written to. -/
def assignShared (root : Json) (flat : Flat) (shared : List Shared) :
    List (String × Path × Json) → Except Document.Fault Json × Flat
  | [] => (.ok root, flat)
  | (key, path, value) :: rest =>
    match Path.assign root path value with
    | .error fault => (.error fault, flat)
    | .ok root =>
      let kept := shared.filter fun s => !path.isPrefixOf s.path
      assignShared root (shared.foldl (throughShared path value) flat)
        (kept ++ sharedBy key path value) rest

/-- The keys, steps and values to write; a path without steps writes nothing. -/
def keyedAssignments (flat : Flat) : List (String × Path × Json) :=
  (flat.entries.map fun (key, value) => (key, Path.split key, value)).filter
    fun (_, steps, _) => !steps.isEmpty

/-- The document that a flat form stands for, and the flat form afterwards. -/
def rebuilt (flat : Flat) (kind : RootKind) : Except Document.Fault Json × Flat :=
  assignShared (initialRoot kind flat.assignments) flat [] flat.keyedAssignments

theorem assignShared_fst (root : Json) (flat : Flat) (shared : List Shared)
    (pending : List (String × Path × Json)) :
    (assignShared root flat shared pending).1 = assignAll root (pending.map (·.2)) := by
  induction pending generalizing root flat shared with
  | nil => rfl
  | cons head rest ih =>
    obtain ⟨key, path, value⟩ := head
    simp only [assignShared, List.map_cons, assignAll]
    cases Path.assign root path value with
    | error fault => rfl
    | ok root => exact ih ..

theorem map_keyedAssignments (flat : Flat) :
    flat.keyedAssignments.map (·.2) = flat.assignments := by
  simp only [keyedAssignments, assignments, List.filter_map, List.map_map]
  rfl

/-- What the document shares with the flat form does not change the document. -/
theorem rebuilt_fst (flat : Flat) (kind : RootKind) :
    (flat.rebuilt kind).1 = flat.toDocument kind := by
  rw [rebuilt, assignShared_fst, map_keyedAssignments, toDocument]

end ConfigTemplate.Flat
