import ConfigTemplate.Proofs.Session.Invariant

/-!
# The memory of a session

Of a session only its document and its resolved keys count for what is resolved later. Events and
the other marks may change without a difference. To settle a key changes the value and the mark of
that key alone.
-/

namespace ConfigTemplate.Session

open ConfigTemplate.Action

variable {flat : Flat} {underway : List String} {key : String} {value : Json} {s t : Session}

/-- Whether two sessions hold the same document and have resolved the same keys. -/
structure SameMemory (s t : Session) : Prop where
  flat : t.flat = s.flat
  resolved : ∀ key, t.mark key = .resolved ↔ s.mark key = .resolved

theorem SameMemory.trans {u : Session} (first : SameMemory s t) (second : SameMemory t u) :
    SameMemory s u :=
  ⟨second.flat.trans first.flat, fun key => (second.resolved key).trans (first.resolved key)⟩

theorem sameMemory_noted (s : Session) (event : Event) : SameMemory s (s.noted event) :=
  ⟨rfl, fun _ => .rfl⟩

/-- Marks on a key that is not resolved before and after. -/
theorem sameMemory_marked (unresolved : s.mark key ≠ .resolved) {mark : Mark}
    (other : mark ≠ .resolved) : SameMemory s (s.marked key mark) := by
  refine ⟨rfl, fun k => ?_⟩
  by_cases here : key = k
  · subst here
    simp [unresolved, other]
  · rw [mark_marked_of_ne s here]

theorem sameMemory_entering (unresolved : s.mark key ≠ .resolved) :
    SameMemory s (s.entering key) :=
  (sameMemory_marked unresolved (by decide)).trans (sameMemory_noted ..)

theorem sameMemory_gaveUpOn (unresolved : s.mark key ≠ .resolved) :
    SameMemory s (s.gaveUpOn key) :=
  (sameMemory_marked unresolved (by decide)).trans (sameMemory_noted ..)

/-- To note a pick changes nothing that counts. -/
theorem sameMemory_notePick (s : Session) (expression : String) (found : Flat.Pick) :
    (notePick expression found).result s = .ok () ∧
      SameMemory s ((notePick expression found).final s) := by
  unfold notePick
  split
  · exact ⟨rfl, sameMemory_noted ..⟩
  · exact ⟨rfl, rfl, fun _ => .rfl⟩

theorem sameMemory_noteWithheld (setup : Setup) (key : String) (value : Json) (s : Session) :
    SameMemory s ((noteWithheld setup key value).final s) :=
  keeps_noteWithheld (fun same _ _ => same.trans (sameMemory_noted ..)) setup key value s
    ⟨rfl, fun _ => .rfl⟩

/-- Whether a session is another one in which a key was settled on a value. -/
structure Settled (s : Session) (key : String) (value : Json) (t : Session) : Prop where
  mark : t.mark key = .resolved
  value : t.flat.get? key = some value
  marks : ∀ other, key ≠ other → t.mark other = s.mark other
  values : ∀ other, key ≠ other → t.flat.get? other = s.flat.get? other
  shape : t.flat.shape = s.flat.shape

/-- A key may be settled on the value that it has. -/
theorem settled_settledOn (present : s.flat.get? key = some value) :
    Settled s key value (s.settledOn key value) where
  mark := mark_marked_self ..
  value := present
  marks _ other := mark_marked_of_ne s other _
  values _ _ := rfl
  shape := rfl

/-- A key that has a string may be settled on a string that is stored in its place. -/
theorem settled_stored {text : String} (present : s.flat.get? key = some (.str text))
    (new : String) :
    Settled s key (.str new) ((s.stored key (.str new)).settledOn key (.str new)) where
  mark := mark_marked_self ..
  value := Flat.get?_put_self ..
  marks _ other := mark_marked_of_ne (s.stored key (.str new)) other _
  values _ other := Flat.get?_put_of_ne _ other _
  shape := Flat.shape_put present rfl

/-- Whether a session holds what a flat document holds, as far as keys are not resolved, and some
keys are not resolved. -/
structure Tracks (flat : Flat) (underway : List String) (s : Session) : Prop where
  shape : s.flat.shape = flat.shape
  others : ∀ key, s.mark key ≠ .resolved → s.flat.get? key = flat.get? key
  underway : ∀ key ∈ underway, s.mark key ≠ .resolved

namespace Tracks

theorem start (flat : Flat) : Tracks flat [] (start flat) :=
  ⟨rfl, fun _ _ => rfl, by simp⟩

theorem of_sameMemory (h : Tracks flat underway s) (same : SameMemory s t) :
    Tracks flat underway t where
  shape := same.flat ▸ h.shape
  others key unresolved := by
    rw [same.flat]
    exact h.others key fun resolved => unresolved ((same.resolved key).2 resolved)
  underway key mem resolved := h.underway key mem ((same.resolved key).1 resolved)

theorem append (h : Tracks flat underway s) (unresolved : s.mark key ≠ .resolved) :
    Tracks flat (underway ++ [key]) s := by
  refine ⟨h.shape, h.others, fun k mem => ?_⟩
  obtain earlier | last := List.mem_append.1 mem
  · exact h.underway k earlier
  · rwa [List.mem_singleton.1 last]

theorem of_append (h : Tracks flat (underway ++ [key]) s) : Tracks flat underway s :=
  ⟨h.shape, h.others, fun k mem => h.underway k (List.mem_append_left _ mem)⟩

theorem unresolved (h : Tracks flat (underway ++ [key]) s) : s.mark key ≠ .resolved :=
  h.underway key (by simp)

/-- A key that is being resolved holds its value of the document. -/
theorem original (h : Tracks flat (underway ++ [key]) s) : s.flat.get? key = flat.get? key :=
  h.others key h.unresolved

theorem settled (h : Tracks flat (underway ++ [key]) s) (fresh : key ∉ underway)
    (change : Settled s key value t) : Tracks flat underway t := by
  have other : ∀ k, t.mark k ≠ .resolved → key ≠ k := by
    rintro k unresolved rfl
    exact unresolved change.mark
  refine ⟨change.shape.trans h.shape, fun k unresolved => ?_, fun k mem => ?_⟩
  · rw [change.values k (other k unresolved)]
    exact h.others k (change.marks k (other k unresolved) ▸ unresolved)
  · have apart : key ≠ k := fun same => fresh (same ▸ mem)
    rw [change.marks k apart]
    exact h.underway k (List.mem_append_left _ mem)

end Tracks

end ConfigTemplate.Session
