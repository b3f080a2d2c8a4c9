import ConfigTemplate.Proofs.Flat.Lookup
import ConfigTemplate.Proofs.Json.Leaves
import ConfigTemplate.Proofs.Placeholder.Template
import ConfigTemplate.Proofs.Session.Memory
import Mathlib.Logic.Relation

/-!
# Documents of references

In a document whose strings hold references only, each of which leads to a key, the keys refer to
each other. A session settles such a document when its resolved keys are closed under references,
lie on no cycle of them, and hold their strings with each reference replaced by what its key holds.
A key may be settled as soon as all that it refers to is resolved: it lies on no cycle then.
-/

namespace ConfigTemplate

namespace Session

open ConfigTemplate.Action Relation

/-- The key that a reference leads to. -/
def target? (setup : Setup) (flat : Flat) (payload : String) : Option String :=
  match flat.resolve setup.options.uniqueMatch (Text.trimmed payload) with
  | .ok found => some found.chosen
  | .error _ => none

/-- The text that a reference stands for in a flat document: that of its key's value. -/
def referent (setup : Setup) (flat : Flat) (payload : String) : String :=
  match (target? setup flat payload).bind flat.get? with
  | some value => value.spliced
  | none => ""

/-- Whether a key holds a string of which a reference leads to another key. -/
def Refers (setup : Setup) (flat : Flat) (template : String → Template) (owner target : String) :
    Prop :=
  ∃ text payload, flat.get? owner = some (.str text) ∧ payload ∈ (template owner).references ∧
    target? setup flat payload = some target

/-- Whether the strings of a flat document hold references only: each is the text of the template
of its key, its references lead to keys, and there are no more of them than may be substituted. -/
structure HoldsReferences (setup : Setup) (flat : Flat) (template : String → Template) : Prop where
  source : ∀ key text, flat.get? key = some (.str text) → (template key).text = text
  found : ∀ key text, flat.get? key = some (.str text) →
    ∀ payload ∈ (template key).references, (target? setup flat payload).isSome
  within : ∀ key text, flat.get? key = some (.str text) →
    ((template key).references.length : Int) ≤ setup.options.limit

/-- Whether a key of a flat document, if it holds a string, holds references only: the string is the
text of the template of the key, its references lead to keys, and there are no more of them than may
be substituted. -/
structure HoldsReferencesAt (setup : Setup) (flat : Flat) (template : String → Template)
    (key : String) : Prop where
  source : ∀ text, flat.get? key = some (.str text) → (template key).text = text
  found : ∀ text, flat.get? key = some (.str text) →
    ∀ payload ∈ (template key).references, (target? setup flat payload).isSome
  within : ∀ text, flat.get? key = some (.str text) →
    ((template key).references.length : Int) ≤ setup.options.limit

/-- Whether no container that is referred to is written with a dollar sign. An empty container never
is. -/
def RefersPlainly (setup : Setup) (flat : Flat) (template : String → Template) : Prop :=
  ∀ owner target value, Refers setup flat template owner target → flat.get? target = some value →
    value.isLeaf = false → '$' ∉ (value.text .asciiLine).toList

/-- Whether some keys of a flat document hold references only and refer to none but each other, and
no container that they refer to is written with a dollar sign. -/
structure SelfContained (setup : Setup) (flat : Flat) (template : String → Template)
    (among : String → Prop) : Prop where
  holds : ∀ key, among key → HoldsReferencesAt setup flat template key
  closed : ∀ owner target, among owner → Refers setup flat template owner target → among target
  plainly : ∀ owner target value, among owner → Refers setup flat template owner target →
    flat.get? target = some value → value.isLeaf = false →
    '$' ∉ (value.text .asciiLine).toList

variable {setup : Setup} {flat : Flat} {template : String → Template} {underway : List String}
variable {among : String → Prop} {key : String} {value : Json} {s t : Session}

/-- A document of references is self-contained as a whole. -/
theorem HoldsReferences.selfContained (holds : HoldsReferences setup flat template)
    (plainly : RefersPlainly setup flat template) :
    SelfContained setup flat template fun _ => True where
  holds key _ := ⟨holds.source key, holds.found key, holds.within key⟩
  closed _ _ _ _ := trivial
  plainly owner target value _ := plainly owner target value

theorem target?_eq_of_shape {other : Flat} (h : flat.shape = other.shape) (payload : String) :
    target? setup flat payload = target? setup other payload := by
  unfold target?
  rw [Flat.resolve_eq_of_shape h]

/-- A reference leads to a key of the document. -/
theorem mem_of_target? {payload target : String} (h : target? setup flat payload = some target) :
    target ∈ flat := by
  unfold target? at h
  split at h
  next found resolved =>
    rw [← Option.some.inj h]
    exact Flat.mem_of_resolve resolved
  · cases h

theorem Refers.mem {owner target : String} (h : Refers setup flat template owner target) :
    target ∈ flat := by
  obtain ⟨_, _, _, _, leads⟩ := h
  exact mem_of_target? leads

/-- Whether the keys that are resolved in one session are resolved in another, to the same. -/
def Extends (s t : Session) : Prop :=
  ∀ key, s.mark key = .resolved → t.mark key = .resolved ∧ t.flat.get? key = s.flat.get? key

theorem Extends.refl (s : Session) : Extends s s := fun _ resolved => ⟨resolved, rfl⟩

theorem Extends.trans {u : Session} (first : Extends s t) (second : Extends t u) : Extends s u := by
  intro key resolved
  obtain ⟨still, same⟩ := first key resolved
  obtain ⟨always, unchanged⟩ := second key still
  exact ⟨always, unchanged.trans same⟩

theorem SameMemory.extends (h : SameMemory s t) : Extends s t :=
  fun key resolved => ⟨(h.resolved key).2 resolved, by rw [h.flat]⟩

theorem Settled.extends (h : Settled s key value t) (unresolved : s.mark key ≠ .resolved) :
    Extends s t := by
  intro other resolved
  have apart : key ≠ other := by
    rintro rfl
    exact unresolved resolved
  exact ⟨(h.marks other apart).trans resolved, h.values other apart⟩

/-- Whether a session has come from another one by work on some keys that asks for nothing: resolved
keys stay as they are, and the other keys keep their marks. -/
structure Develops (among : String → Prop) (s t : Session) : Prop where
  keeps : Extends s t
  others : ∀ key, ¬ among key → t.mark key = s.mark key
  asksNothing : s.journal.AsksNothing → t.journal.AsksNothing

namespace Develops

theorem refl (among : String → Prop) (s : Session) : Develops among s s :=
  ⟨.refl s, fun _ _ => rfl, id⟩

theorem trans {u : Session} (first : Develops among s t) (second : Develops among t u) :
    Develops among s u :=
  ⟨first.keeps.trans second.keeps,
    fun key other => (second.others key other).trans (first.others key other),
    second.asksNothing ∘ first.asksNothing⟩

theorem noted {event : Event} (other : ¬ event.IsQuestion) (among : String → Prop) (s : Session) :
    Develops among s (s.noted event) :=
  ⟨(sameMemory_noted ..).extends, fun _ _ => rfl,
    fun asked => List.forall_mem_cons.2 ⟨other, asked⟩⟩

theorem entering (mem : among key) (unresolved : s.mark key ≠ .resolved) :
    Develops among s (s.entering key) := by
  have told : Develops among s (s.noted (.entered key)) := .noted id among s
  refine ⟨(sameMemory_entering unresolved).extends, fun other outside => ?_, told.asksNothing⟩
  have apart : key ≠ other := by
    rintro rfl
    exact outside mem
  exact mark_marked_of_ne s apart _

theorem settled (mem : among key) (unresolved : s.mark key ≠ .resolved)
    (change : Settled s key value t) (told : t.journal = .settled key value :: s.journal) :
    Develops among s t := by
  refine ⟨change.extends unresolved, fun other outside => ?_, fun asked => ?_⟩
  · have apart : key ≠ other := by
      rintro rfl
      exact outside mem
    exact change.marks other apart
  · rw [told]
    exact List.forall_mem_cons.2 ⟨id, asked⟩

theorem notePick (among : String → Prop) (s : Session) (expression : String) (found : Flat.Pick) :
    Develops among s ((notePick expression found).final s) := by
  unfold Action.notePick
  split
  · exact .noted id among s
  · exact .refl among s

theorem noteWithheld (setup : Setup) (among : String → Prop) (s : Session) (key : String)
    (value : Json) : Develops among s ((noteWithheld setup key value).final s) :=
  keeps_noteWithheld (fun develops _ _ => develops.trans (.noted id among _)) setup key value s
    (.refl among s)

end Develops

/-- A reference to a resolved key goes on standing for the same text. -/
theorem Extends.referent_eq (h : Extends s t) (shape : t.flat.shape = s.flat.shape)
    {payload target : String} (leads : target? setup s.flat payload = some target)
    (resolved : s.mark target = .resolved) :
    referent setup t.flat payload = referent setup s.flat payload := by
  unfold referent
  rw [target?_eq_of_shape shape, leads]
  simp only [Option.bind_some, (h target resolved).2]

/-- Whether a session has resolved keys of a document of references to what they stand for. -/
structure Settles (setup : Setup) (flat : Flat) (template : String → Template)
    (underway : List String) (s : Session) : Prop extends Tracks flat underway s where
  scalars : ∀ key value, flat.get? key = some value → (∀ text, value ≠ .str text) →
    s.flat.get? key = some value
  found : ∀ key text, s.mark key = .resolved → flat.get? key = some (.str text) →
    ∀ payload ∈ (template key).references, (target? setup flat payload).isSome
  strings : ∀ key text, s.mark key = .resolved → flat.get? key = some (.str text) →
    s.flat.get? key = some (.str ((template key).filled (referent setup s.flat)))
  plain : ∀ key text, s.mark key = .resolved → s.flat.get? key = some (.str text) →
    '$' ∉ text.toList
  targets : ∀ key target, s.mark key = .resolved → Refers setup flat template key target →
    s.mark target = .resolved
  acyclic : ∀ key, s.mark key = .resolved → ¬ TransGen (Refers setup flat template) key key

theorem settles_start (setup : Setup) (flat : Flat) (template : String → Template) :
    Settles setup flat template [] (start flat) where
  toTracks := .start flat
  scalars _ _ present _ := present
  found key text resolved := by simp at resolved
  strings key text resolved := by simp at resolved
  plain key text resolved := by simp at resolved
  targets key target resolved := by simp at resolved
  acyclic key resolved := by simp at resolved

namespace Settles

theorem of_sameMemory (h : Settles setup flat template underway s) (same : SameMemory s t) :
    Settles setup flat template underway t where
  toTracks := h.toTracks.of_sameMemory same
  scalars := same.flat ▸ h.scalars
  found key text known := h.found key text ((same.resolved key).1 known)
  strings key text known := same.flat ▸ h.strings key text ((same.resolved key).1 known)
  plain key text known := same.flat ▸ h.plain key text ((same.resolved key).1 known)
  targets key target known refers :=
    (same.resolved target).2 (h.targets key target ((same.resolved key).1 known) refers)
  acyclic key known := h.acyclic key ((same.resolved key).1 known)

theorem noted (h : Settles setup flat template underway s) (event : Event) :
    Settles setup flat template underway (s.noted event) :=
  h.of_sameMemory (sameMemory_noted ..)

theorem entering (h : Settles setup flat template underway s)
    (unresolved : s.mark key ≠ .resolved) :
    Settles setup flat template (underway ++ [key]) (s.entering key) := by
  have appended : Settles setup flat template (underway ++ [key]) s :=
    { h with toTracks := h.toTracks.append unresolved }
  exact appended.of_sameMemory (sameMemory_entering unresolved)

/-- All that a resolved key refers to over some references is resolved. -/
theorem reaches (h : Settles setup flat template underway s) {target : String}
    (resolved : s.mark key = .resolved)
    (path : ReflTransGen (Refers setup flat template) key target) :
    s.mark target = .resolved := by
  induction path with
  | refl => exact resolved
  | tail _ edge ih => exact h.targets _ _ ih edge

/-- A key that is not resolved while all that it refers to is lies on no cycle. -/
theorem not_cyclic (h : Settles setup flat template underway s)
    (unresolved : s.mark key ≠ .resolved)
    (targets : ∀ target, Refers setup flat template key target → s.mark target = .resolved) :
    ¬ TransGen (Refers setup flat template) key key := by
  intro cycle
  obtain ⟨target, edge, back⟩ := TransGen.head'_iff.1 cycle
  exact unresolved (h.reaches (targets target edge) back)

end Settles

/-- What a key of references is filled with stays the same once all that it refers to is
resolved. -/
theorem filled_eq {text : String} (present : flat.get? key = some (.str text))
    (found : ∀ payload ∈ (template key).references, (target? setup flat payload).isSome)
    (shape : s.flat.shape = flat.shape) (sameShape : t.flat.shape = s.flat.shape)
    (h : Extends s t)
    (targets : ∀ target, Refers setup flat template key target → s.mark target = .resolved) :
    (template key).filled (referent setup t.flat) =
      (template key).filled (referent setup s.flat) := by
  refine Template.filled_congr fun payload mem => ?_
  obtain ⟨target, leads⟩ := Option.isSome_iff_exists.1 (found payload mem)
  have here : target? setup s.flat payload = some target := by
    rwa [target?_eq_of_shape shape]
  exact h.referent_eq sameShape here (targets target ⟨text, payload, present, mem, leads⟩)

/-- A key may be settled on what its references stand for when these are resolved. -/
theorem Settles.settled (holds : HoldsReferencesAt setup flat template key)
    (h : Settles setup flat template (underway ++ [key]) s) (fresh : key ∉ underway)
    (change : Settled s key value t)
    (scalar : ∀ old, flat.get? key = some old → (∀ text, old ≠ .str text) → value = old)
    (string : ∀ text, flat.get? key = some (.str text) →
      value = .str ((template key).filled (referent setup s.flat)))
    (plain : ∀ text, value = .str text → '$' ∉ text.toList)
    (targets : ∀ target, Refers setup flat template key target → s.mark target = .resolved) :
    Settles setup flat template underway t := by
  have ext : Extends s t := change.extends h.unresolved
  have closed : ∀ k, t.mark k = .resolved → ∀ target, Refers setup flat template k target →
      s.mark target = .resolved := by
    intro k resolved target refers
    by_cases same : key = k
    · subst same
      exact targets target refers
    · exact h.targets k target ((change.marks k same).symm.trans resolved) refers
  have found : ∀ k text, t.mark k = .resolved → flat.get? k = some (.str text) →
      ∀ payload ∈ (template k).references, (target? setup flat payload).isSome := by
    intro k text resolved present
    by_cases same : key = k
    · subst same
      exact holds.found text present
    · exact h.found k text ((change.marks k same).symm.trans resolved) present
  refine ⟨h.toTracks.settled fresh change, ?_, found, ?_, ?_, ?_, ?_⟩
  · intro k old present other
    by_cases same : key = k
    · subst same
      rw [change.value, scalar old present other]
    · rw [change.values k same]
      exact h.scalars k old present other
  · intro k text resolved present
    rw [filled_eq present (found k text resolved present) h.shape change.shape ext
      (closed k resolved)]
    by_cases same : key = k
    · subst same
      rw [change.value, string text present]
    · rw [change.values k same]
      exact h.strings k text ((change.marks k same).symm.trans resolved) present
  · intro k text resolved present
    by_cases same : key = k
    · subst same
      exact plain text (Option.some.inj (change.value.symm.trans present))
    · exact h.plain k text ((change.marks k same).symm.trans resolved)
        ((change.values k same).symm.trans present)
  · intro k target resolved refers
    exact (ext target (closed k resolved target refers)).1
  · intro k resolved
    by_cases same : key = k
    · subst same
      exact h.not_cyclic h.unresolved targets
    · exact h.acyclic k ((change.marks k same).symm.trans resolved)

end Session

end ConfigTemplate
