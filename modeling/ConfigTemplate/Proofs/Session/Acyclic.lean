import ConfigTemplate.Proofs.Entries
import ConfigTemplate.Proofs.Json.Scalar
import ConfigTemplate.Proofs.Session.References
import ConfigTemplate.Proofs.Session.Trail
import Mathlib

/-!
# Resolving references

In a document whose strings hold references only, each of which leads to a key, resolving succeeds
exactly when no key refers to itself over some references. Every string then has its references
replaced by what their keys came to, all at once.

While the keys of a trail are being resolved, each of them refers to the key that is to be resolved
next over some references, so a key that is reached again closes a cycle. A key that is not reached
again is settled after all that it refers to.
-/

namespace ConfigTemplate

namespace Session

open ConfigTemplate.Action Relation

variable {setup : Setup} {flat : Flat} {template : String → Template} {underway : List String}
variable {among : String → Prop} {key : String} {value : Json} {s t : Session}

/-- Whether a halt reports a loop, and some key refers to itself over some references. -/
def IsLoop (setup : Setup) (flat : Flat) (template : String → Template) (halt : Halt) : Prop :=
  (∃ key trail, halt = .failure (.circular key trail)) ∧
    ∃ key, TransGen (Refers setup flat template) key key

/-- What the resolution of a key of references ensures, begun in a session: it settles the key by
work on some keys alone and leaves what was settled before, or it reports a loop. -/
def Resolves (setup : Setup) (flat : Flat) (template : String → Template) (among : String → Prop)
    (underway : List String) (key : String) (action : Action Json) (s : Session) : Prop :=
  Ensures (IsLoop setup flat template)
    (fun value t => Settles setup flat template underway t ∧ Develops among s t ∧
      t.mark key = .resolved ∧ t.flat.get? key = some value) action s

/-- Whether a way to enter keys resolves all that a key refers to. -/
def ResolvesTargets (setup : Setup) (flat : Flat) (template : String → Template)
    (among : String → Prop) (underway : List String) (owner : String) (enter : Enter) : Prop :=
  ∀ target, Refers setup flat template owner target → ∀ s,
    Settles setup flat template underway s →
      Resolves setup flat template among underway target (enter target) s

variable {enter : Enter} {owner payload target : String}

/-- A reference is followed to its key. -/
theorem resolves_follow (deep : ResolvesTargets setup flat template among underway owner enter)
    (refers : Refers setup flat template owner target)
    (leads : target? setup flat payload = some target)
    (h : Settles setup flat template underway s) :
    Resolves setup flat template among underway target
      (follow setup enter (Text.trimmed payload)) s := by
  unfold target? at leads
  split at leads
  next found resolved =>
    obtain rfl := Option.some.inj leads
    rw [← Flat.resolve_eq_of_shape h.shape] at resolved
    obtain ⟨noted, same⟩ := sameMemory_notePick s (Text.trimmed payload) found
    have picked : Ensures (IsLoop setup flat template)
        (fun _ t => Settles setup flat template underway t ∧ Develops among s t)
        (notePick (Text.trimmed payload) found) s :=
      .of_ok noted ⟨h.of_sameMemory same, .notePick among s _ found⟩
    unfold Resolves follow
    refine .get_bind ?_
    rw [resolved]
    refine picked.bind ?_
    rintro _ t ⟨settles, develops⟩
    refine (deep found.chosen refers t settles).mono ?_
    rintro value u ⟨settled, further, mark, present⟩
    exact ⟨settled, develops.trans further, mark, present⟩
  · cases leads

/-- A key that was entered is settled once its value is known. -/
theorem resolves_of_settles (h : Settles setup flat template (underway ++ [key]) t)
    (develops : Develops among (s.entering key) t) (mem : among key)
    (unresolved : s.mark key ≠ .resolved)
    (result : (resolveValue setup enter key).result (s.entering key) = .ok value)
    (change : Settled t key value
      (((resolveValue setup enter key).final (s.entering key)).settledOn key value))
    (told : ((resolveValue setup enter key).final (s.entering key)).journal = t.journal)
    (settles : Settles setup flat template underway
      (((resolveValue setup enter key).final (s.entering key)).settledOn key value)) :
    Resolves setup flat template among underway key (enterKey setup enter key) s := by
  refine .of_ok (result_enterKey.trans result) ?_
  rw [final_enterKey_of_ok result]
  have same := sameMemory_noteWithheld setup key value
    (((resolveValue setup enter key).final (s.entering key)).settledOn key value)
  refine ⟨settles.of_sameMemory same, ?_, (same.resolved key).2 change.mark, ?_⟩
  · have before := (Develops.entering mem unresolved).trans develops
    have after := Develops.settled mem h.unresolved change (congrArg _ told)
    exact before.trans (after.trans (.noteWithheld setup among _ key value))
  · rw [same.flat, change.value]

/-- The usual handlers report a loop and leave it a failure. -/
theorem result_recover_of_standard (standard : setup.registry = .standard) (enter : Enter)
    (trail : List String) (s : Session) :
    (recover setup enter (.circular key trail)).result s =
      .error (.failure (.circular key trail)) := by
  have usual : setup.registry.get? .circularDependency = some .reportLoop := by
    rw [standard]
    rfl
  unfold recover
  simp only [Failure.kind, usual]
  rfl

theorem exists_kinds (setup : Setup) : ∃ others, kinds setup = .reference :: others := by
  unfold kinds
  split <;> exact ⟨_, rfl⟩

/-- A key of references is pending in a session that has done nothing yet. -/
theorem mem_pending (holds : HoldsReferences setup flat template) {text : String}
    (present : flat.get? key = some (.str text)) (nonempty : (template key).references ≠ []) :
    key ∈ pending setup (start flat) := by
  have occurs : isPending (kinds setup) (.str text) = true := by
    cases scanned : Placeholder.scan (kinds setup) text with
    | some p => simp [isPending, Placeholder.occurs, scanned]
    | none =>
      obtain ⟨others, kinds⟩ := exists_kinds setup
      rw [kinds, ← holds.source key text present] at scanned
      exact absurd (Placeholder.references_eq_nil_of_scan scanned) nonempty
  refine List.mem_map.2 ⟨(key, .str text), ?_, rfl⟩
  exact List.mem_filter.2 ⟨Entries.mem_of_get? present, by simp [occurs]⟩

section Document

variable (standard : setup.registry = .standard)
variable (contained : SelfContained setup flat template among)

include contained

/-- The text of a settled key that is referred to has no dollar sign. -/
theorem plain_spliced (mem : among owner) (refers : Refers setup flat template owner target)
    (h : Settles setup flat template underway s)
    (resolved : s.mark target = .resolved) (present : s.flat.get? target = some value) :
    '$' ∉ value.spliced.toList := by
  obtain ⟨old, was⟩ := Flat.exists_get? refers.mem
  obtain ⟨text, rfl⟩ | other := old.eq_str_or
  · have filled := h.strings target text resolved was
    obtain rfl := Option.some.inj (filled.symm.trans present)
    exact h.plain target _ resolved filled
  · obtain rfl := Option.some.inj ((h.scalars target old was other).symm.trans present)
    have spliced : old.spliced = old.text .asciiLine := by
      cases old with
      | str text => exact absurd rfl (other text)
      | _ => rfl
    rw [spliced]
    cases leaf : old.isLeaf with
    | true => exact Json.dollar_not_mem_text_of_isLeaf leaf other _
    | false => exact contained.plainly owner target old mem refers was leaf

/-- A reference is replaced by what it stands for. -/
theorem ensures_replacement (mem : among owner)
    (deep : ResolvesTargets setup flat template among underway owner enter)
    (refers : Refers setup flat template owner target)
    (leads : target? setup flat payload = some target)
    (h : Settles setup flat template underway s) (name : Option String) (source : String)
    (start : Nat) :
    Ensures (IsLoop setup flat template)
      (fun new t => Settles setup flat template underway t ∧ Develops among s t ∧
        t.mark target = .resolved ∧ '$' ∉ new.toList ∧ new = referent setup t.flat payload)
      (replacement setup enter name source ⟨.reference, payload, start⟩) s := by
  unfold replacement
  refine Ensures.attempt_bind (resolves_follow deep refers leads h) ?_ ?_
  · rintro value t ⟨settles, develops, resolved, present⟩
    refine .of_ok (result_pure ..) ⟨settles, develops, resolved, ?_, ?_⟩
    · exact plain_spliced contained mem refers settles resolved present
    · rw [final_pure, referent, target?_eq_of_shape settles.shape, leads]
      simp only [Option.bind_some, present]
  · rintro _ loop
    obtain ⟨⟨k, trail, rfl⟩, _⟩ := id loop
    exact .of_error (result_fail ..) loop

/-- A text of which a template is left to be filled in has the references of the template replaced
by what they stand for. -/
theorem ensures_substitute (mem : among owner)
    (deep : ResolvesTargets setup flat template among underway owner enter)
    (name : Option String) {pieces : Template} {front : List Char} (plain : '$' ∉ front)
    (leads : ∀ payload ∈ pieces.references, ∃ target, target? setup flat payload = some target ∧
      Refers setup flat template owner target)
    {count : Nat} (within : pieces.references.length ≤ count) {text : String}
    (source : text.toList = front ++ pieces.flatMap Piece.chars)
    (h : Settles setup flat template underway s) :
    Ensures (IsLoop setup flat template)
      (fun new t => Settles setup flat template underway t ∧ Develops among s t ∧
        (∀ payload ∈ pieces.references, ∀ target, target? setup flat payload = some target →
          t.mark target = .resolved) ∧
        '$' ∉ new.toList ∧
        new.toList = front ++ pieces.flatMap (Piece.filled (referent setup t.flat)))
      (substitute setup enter name count text) s := by
  -- What is filled in goes over to the front, which stays without a dollar sign: the first
  -- reference that a scan finds is the first one that is left.
  induction pieces generalizing front count text s with
  | nil =>
    rw [List.flatMap_nil, List.append_nil] at source
    rw [substitute_of_scan (Placeholder.scan_of_plain (source ▸ plain) _)]
    exact .of_ok (result_pure ..)
      ⟨h, .refl among s, by simp, source ▸ plain, by simpa using source⟩
  | cons piece rest ih =>
    rw [List.flatMap_cons] at source
    cases piece with
    | literal literal none =>
      have front' : '$' ∉ front ++ literal.toList := by simp [plain, none]
      refine (ih front' leads within (by simpa [Piece.chars] using source) h).mono ?_
      rintro new t ⟨settles, develops, resolved, clean, filled⟩
      exact ⟨settles, develops, resolved, clean, by simpa [Piece.filled] using filled⟩
    | reference payload nonempty braceless =>
      rw [Template.references_reference] at leads within ⊢
      rw [List.forall_mem_cons] at leads
      obtain ⟨⟨target, first, refers⟩, more⟩ := leads
      obtain ⟨count, rfl⟩ : ∃ less, count = less + 1 :=
        Nat.exists_eq_add_one.2 (Nat.lt_of_lt_of_le (Nat.succ_pos _) within)
      have scanned : Placeholder.scan (kinds setup) text =
          some ⟨.reference, payload, front.length⟩ := by
        obtain ⟨others, kinds⟩ := exists_kinds setup
        rw [kinds]
        exact Placeholder.scan_reference plain nonempty braceless source others
      simp only [substitute, scanned]
      refine (ensures_replacement contained mem deep refers first h name text _).bind ?_
      rintro new t ⟨settles, develops, resolved, clean, standsFor⟩
      refine .note_bind ?_
      rw [if_neg (Placeholder.splice_reference_ne source clean)]
      have spliced :=
        Placeholder.toList_splice (p := ⟨.reference, payload, front.length⟩) source rfl new
      have front' : '$' ∉ front ++ new.toList := by simp [plain, clean]
      refine (ih front' more (Nat.le_of_succ_le_succ within) (by simpa using spliced)
        (settles.noted _)).mono ?_
      rintro result u ⟨settles', develops', resolved', clean', filled⟩
      have here : target? setup t.flat payload = some target :=
        (target?_eq_of_shape settles.shape _).trans first
      have same : referent setup u.flat payload = referent setup t.flat payload :=
        develops'.keeps.referent_eq (settles'.shape.trans settles.shape.symm) here resolved
      have told : Develops among t
          (t.noted (.replaced text ⟨.reference, payload, front.length⟩ new)) :=
        .noted id among t
      refine ⟨settles', develops.trans (told.trans develops'), ?_, clean', ?_⟩
      · rw [List.forall_mem_cons]
        refine ⟨fun k found => ?_, resolved'⟩
        obtain rfl := Option.some.inj (first.symm.trans found)
        exact (develops'.keeps target resolved).1
      · rw [filled, standsFor, ← same]
        simp [Piece.filled]

/-- The string of a key has its references replaced by what they stand for. -/
theorem ensures_substituteAll (mem : among key)
    (deep : ResolvesTargets setup flat template among underway key enter)
    (name : Option String) {text : String} (present : flat.get? key = some (.str text))
    (h : Settles setup flat template underway s) :
    Ensures (IsLoop setup flat template)
      (fun new t => Settles setup flat template underway t ∧ Develops among s t ∧
        (∀ target, Refers setup flat template key target → t.mark target = .resolved) ∧
        '$' ∉ new.toList ∧ new = (template key).filled (referent setup t.flat))
      (substituteAll setup enter name text) s := by
  have holds := contained.holds key mem
  have leads : ∀ payload ∈ (template key).references, ∃ target,
      target? setup flat payload = some target ∧ Refers setup flat template key target := by
    intro payload mem
    obtain ⟨target, found⟩ := Option.isSome_iff_exists.1 (holds.found text present payload mem)
    exact ⟨target, found, text, payload, present, mem, found⟩
  have within : (template key).references.length ≤ setup.options.limit.toNat := by
    have bound := holds.within text present
    omega
  have source : text.toList = [] ++ (template key).flatMap Piece.chars := by
    rw [← holds.source text present, Template.text, String.toList_ofList, List.nil_append]
  refine (ensures_substitute contained mem deep name (by simp) leads within source h).mono ?_
  rintro new t ⟨settles, develops, resolved, plain, filled⟩
  refine ⟨settles, develops, ?_, plain, ?_⟩
  · rintro target ⟨_, payload, _, mem, found⟩
    exact resolved payload mem target found
  · rw [List.nil_append] at filled
    rw [Template.filled, ← filled, String.ofList_toList]

/-- To enter a key settles it when the keys that it refers to are settled. -/
theorem resolves_enterKey (inside : among key)
    (deep : ResolvesTargets setup flat template among (underway ++ [key]) key enter)
    (fresh : key ∉ underway) (mem : key ∈ flat) (h : Settles setup flat template underway s)
    (unresolved : s.mark key ≠ .resolved) :
    Resolves setup flat template among underway key (enterKey setup enter key) s := by
  have holds := contained.holds key inside
  have entered := h.entering unresolved
  obtain ⟨old, present⟩ := Flat.exists_get? mem
  have here := entered.original.trans present
  obtain ⟨text, rfl⟩ | other := old.eq_str_or
  · have substituted :=
      ensures_substituteAll contained inside deep (some key) present entered
    have result : (resolveValue setup enter key).result (s.entering key) = _ :=
      result_resolveValue_of_str here
    cases done : (substituteAll setup enter (some key) text).result (s.entering key) with
    | error halt =>
      rw [done] at result
      exact .of_error (result_enterKey.trans result) (substituted.error done)
    | ok new =>
      rw [done] at result
      obtain ⟨settles, develops, targets, plain, filled⟩ := substituted.ok done
      have change := settled_stored (settles.original.trans present) new
      have final := final_resolveValue_of_ok here done
      have told : ((resolveValue setup enter key).final (s.entering key)).journal =
          ((substituteAll setup enter (some key) text).final (s.entering key)).journal := by
        rw [final]
        rfl
      rw [← final] at change
      refine resolves_of_settles settles develops inside unresolved result change told ?_
      refine settles.settled holds fresh change ?_ ?_ ?_ targets
      · intro old was other
        exact absurd (Option.some.inj (was.symm.trans present)) (other text)
      · intro _ _
        exact congrArg Json.str filled
      · intro text same
        exact Json.str.inj same ▸ plain
  · have final : (resolveValue setup enter key).final (s.entering key) = s.entering key :=
      final_resolveValue_of_ne_str here other
    have change : Settled (s.entering key) key old
        (((resolveValue setup enter key).final (s.entering key)).settledOn key old) := by
      rw [final]
      exact settled_settledOn here
    have none : ∀ target, ¬ Refers setup flat template key target := by
      rintro target ⟨text, _, was, _⟩
      exact other text (Option.some.inj (present.symm.trans was))
    refine resolves_of_settles entered (.refl among _) inside unresolved
      (result_resolveValue_of_ne_str here other) change (congrArg Session.journal final) ?_
    refine entered.settled holds fresh change ?_ ?_ ?_ fun target refers =>
      absurd refers (none target)
    · intro _ was _
      exact Option.some.inj (present.symm.trans was)
    · intro text was
      exact absurd (Option.some.inj (present.symm.trans was)) (other text)
    · intro text same
      exact absurd same (other text)

include standard

/-- One step settles a key that each key of the trail refers to when the deeper steps do. -/
theorem resolves_resolveStep {deeper : Trail → Enter} {trail : Trail}
    (path : ∀ other ∈ trail.keys, TransGen (Refers setup flat template) other key)
    (inside : among key) (mem : key ∈ flat)
    (deep : ∀ longer, trail.push key = .ok longer →
      ResolvesTargets setup flat template among longer.keys key (deeper longer))
    (h : Settles setup flat template trail.keys s) :
    Resolves setup flat template among trail.keys key (resolveStep setup deeper trail key) s := by
  by_cases resolved : s.mark key = .resolved
  · obtain ⟨value, present⟩ := Flat.exists_get? ((Flat.mem_iff_of_shape h.shape).2 mem)
    obtain ⟨result, final⟩ := resolveStep_of_resolved setup deeper trail resolved present
    refine .of_ok result ?_
    rw [final]
    exact ⟨h, .refl among s, resolved, present⟩
  · cases pushed : trail.push key with
    | error failure =>
      -- The key is on the trail, and what is on the trail refers to the key.
      obtain ⟨onTrail, rfl⟩ := Trail.mem_of_push_eq_error pushed
      have loop : IsLoop setup flat template (.failure (.circular key trail.keys)) :=
        ⟨⟨key, trail.keys, rfl⟩, key, path key onTrail⟩
      refine .of_error ?_ loop
      rw [(resolveStep_of_loop setup deeper resolved pushed).1,
        result_recover_of_standard standard]
      rfl
    | ok longer =>
      obtain ⟨result, final⟩ := resolveStep_of_push setup deeper resolved pushed
      unfold Resolves Ensures
      rw [result, final]
      have keys := Trail.keys_of_push pushed
      exact resolves_enterKey contained inside (keys ▸ deep longer pushed)
        (Trail.not_mem_of_push pushed) mem h resolved

/-- The resolution of a key that each key of the trail refers to settles it, or there is a loop. -/
theorem resolves_resolveOn {room : Nat} {trail : Trail} (fits : trail.Fits flat room)
    (path : ∀ other ∈ trail.keys, TransGen (Refers setup flat template) other key)
    (inside : among key) (mem : key ∈ flat) (h : Settles setup flat template trail.keys s) :
    Resolves setup flat template among trail.keys key (resolveOn setup room trail key) s := by
  induction room using Nat.strongRecOn generalizing trail key s with
  | ind room ih =>
    obtain ⟨deeper, step, below⟩ := exists_deeper setup room
    rw [step]
    refine resolves_resolveStep standard contained path inside mem ?_ h
    intro longer pushed target refers s h
    obtain ⟨less, size, deeperFits⟩ := fits.push pushed mem
    have further : ∀ other ∈ longer.keys, TransGen (Refers setup flat template) other target :=
      Trail.forall_mem_of_push pushed (fun other earlier => (path other earlier).tail refers)
        (.single refers)
    rw [below less size]
    exact ih less (by omega) deeperFits further (contained.closed key target inside refers)
      refers.mem h

/-- The resolution of a key settles it, or there is a loop. -/
theorem resolves_resolveKey (inside : among key) (mem : key ∈ flat)
    (h : Settles setup flat template [] s) :
    Resolves setup flat template among [] key (resolveKey setup key) s := by
  have fits : Trail.empty.Fits flat (s.flat.size + setup.registry.depth) := by
    rw [Flat.size_eq_of_shape h.shape]
    exact Trail.fits_empty (Nat.le_add_right ..)
  exact .get_bind (resolves_resolveOn standard contained fits (by simp) inside mem h)

/-- The resolution of some keys settles all of them, or there is a loop. -/
theorem ensures_resolveEach {keys : List String} (inside : ∀ key ∈ keys, among key)
    (mem : ∀ key ∈ keys, key ∈ flat) (h : Settles setup flat template [] s) :
    Ensures (IsLoop setup flat template)
      (fun _ t => Settles setup flat template [] t ∧ Develops among s t ∧
        ∀ key ∈ keys, t.mark key = .resolved) (resolveEach (atRest setup) keys) s := by
  induction keys generalizing s with
  | nil => exact .of_ok (result_pure ..) ⟨h, .refl among s, by simp⟩
  | cons key rest ih =>
    rw [List.forall_mem_cons] at inside mem
    refine Ensures.bind (resolves_resolveKey standard contained inside.1 mem.1 h) ?_
    rintro value t ⟨settles, develops, resolved, _⟩
    refine (ih inside.2 mem.2 settles).mono ?_
    rintro _ u ⟨settles', develops', others⟩
    exact ⟨settles', develops.trans develops',
      List.forall_mem_cons.2 ⟨(develops'.keeps key resolved).1, others⟩⟩

end Document

/-- The resolution of everything settles all keys of references, or there is a loop. -/
theorem ensures_resolveAll (standard : setup.registry = .standard)
    (holds : HoldsReferences setup flat template) (plainly : RefersPlainly setup flat template) :
    Ensures (IsLoop setup flat template)
      (fun _ t => Settles setup flat template [] t ∧
        ∀ key text, flat.get? key = some (.str text) → (template key).references ≠ [] →
          t.mark key = .resolved) (resolveAll setup) (start flat) := by
  have begun := settles_start setup flat template
  unfold resolveAll resolvePending
  refine .get_bind ?_
  dsimp only
  split
  next empty =>
    refine .of_ok (result_note ..) ⟨begun.noted _, fun key text present nonempty => ?_⟩
    have mem := mem_pending holds present nonempty
    rw [List.isEmpty_iff.1 empty] at mem
    cases mem
  · refine .note_bind ((ensures_resolveEach standard (holds.selfContained plainly)
      (fun _ _ => trivial) ?_ (begun.noted _)).mono ?_)
    · intro key mem
      obtain ⟨entry, listed, rfl⟩ := List.mem_map.1 mem
      exact List.mem_map_of_mem (List.mem_of_mem_filter listed)
    · rintro _ t ⟨settles, _, resolved⟩
      refine ⟨settles, fun key text present nonempty => ?_⟩
      exact resolved key (mem_pending holds present nonempty)

/-- In a document of references the resolution of everything succeeds exactly when no key refers to
itself over some references. Every string is then filled with the texts that its references stand
for in the result, all at once, and every other value is as it was. With a cycle there is nothing
but the failure that reports a loop. -/
theorem resolveAll_of_references (standard : setup.registry = .standard)
    (holds : HoldsReferences setup flat template) (plainly : RefersPlainly setup flat template) :
    let result := (resolveAll setup).result (start flat)
    let final := ((resolveAll setup).final (start flat)).flat
    (result = .ok () ↔ ∀ key, ¬ TransGen (Refers setup flat template) key key) ∧
      (result = .ok () → final.keys = flat.keys ∧
        (∀ key text, flat.get? key = some (.str text) →
          final.get? key = some (.str ((template key).filled (referent setup final)))) ∧
        ∀ key value, flat.get? key = some value → (∀ text, value ≠ .str text) →
          final.get? key = some value) ∧
      ((∃ key, TransGen (Refers setup flat template) key key) →
        ∃ key trail, result = .error (.failure (.circular key trail))) := by
  intro result final
  have ensured := ensures_resolveAll standard holds plainly
  have acyclic : result = .ok () → ∀ key, ¬ TransGen (Refers setup flat template) key key := by
    intro ok key cycle
    obtain ⟨settles, resolved⟩ := ensured.ok ok
    obtain ⟨target, ⟨text, payload, present, mem, _⟩, _⟩ := TransGen.head'_iff.1 cycle
    exact settles.acyclic key (resolved key text present (List.ne_nil_of_mem mem)) cycle
  refine ⟨⟨acyclic, fun none => ?_⟩, fun ok => ?_, fun ⟨key, cycle⟩ => ?_⟩
  · cases came : result with
    | ok _ => rfl
    | error halt =>
      obtain ⟨_, key, cycle⟩ := ensured.error came
      exact absurd cycle (none key)
  · obtain ⟨settles, resolved⟩ := ensured.ok ok
    refine ⟨Flat.keys_eq_of_shape settles.shape, fun key text present => ?_, settles.scalars⟩
    -- A key that nobody asked for has no references and is its own text.
    by_cases known : ((resolveAll setup).final (start flat)).mark key = .resolved
    · exact settles.strings key text known present
    · have none : (template key).references = [] := by
        by_contra nonempty
        exact known (resolved key text present nonempty)
      rw [Template.filled_of_references_nil none, holds.source key text present]
      exact (settles.others key known).trans present
  · cases came : result with
    | ok _ => exact absurd cycle (acyclic came key)
    | error halt =>
      obtain ⟨⟨key, trail, rfl⟩, _⟩ := ensured.error came
      exact ⟨key, trail, rfl⟩

/-- An integer and a string are referred to as often as the limit allows, the string also by a
reference with blanks around its key. -/
theorem resolveAll_of_references_chain :
    let setup : Setup := ⟨⟨true, true, 2⟩, ⟨fun _ _ => .output "", fun _ => none, false⟩, .standard⟩
    let flat := Flat.ofList [("a", .str "$\x7b b \x7d, $\x7bb\x7d"), ("b", .str "$\x7bc\x7d\x7d"),
      ("c", .int 1)]
    let template : String → Template := fun key =>
      if key = "a" then [.reference " b " (by decide) (by decide), .literal ", " (by decide),
        .reference "b" (by decide) (by decide)]
      else [.reference "c" (by decide) (by decide), .literal "\x7d" (by decide)]
    HoldsReferences setup flat template ∧ RefersPlainly setup flat template ∧
      (resolveAll setup).result (start flat) = .ok () ∧
      ∀ key, ¬ TransGen (Refers setup flat template) key key := by
  intro setup flat template
  have entries : ∀ key value, flat.get? key = some value →
      (key = "a" ∧ value = .str "$\x7b b \x7d, $\x7bb\x7d") ∨
        (key = "b" ∧ value = .str "$\x7bc\x7d\x7d") ∨ (key = "c" ∧ value = .int 1) := by
    intro key value present
    simpa [flat, Flat.ofList, Entries.ofList, Entries.put] using Entries.mem_of_get? present
  have holds : HoldsReferences setup flat template := by
    refine ⟨?_, ?_, ?_⟩ <;> intro key text present <;>
      obtain ⟨rfl, same⟩ | ⟨rfl, same⟩ | ⟨_, same⟩ := entries key _ present <;> cases same
    · rfl
    · rfl
    · intro payload mem
      obtain rfl | rfl : payload = " b " ∨ payload = "b" := by simpa [template] using mem
      · cbv
      · cbv
    · intro payload mem
      obtain rfl : payload = "c" := by simpa [template] using mem
      cbv
    · decide
    · decide
  have plainly : RefersPlainly setup flat template := by
    intro owner target value _ present container
    obtain ⟨_, rfl⟩ | ⟨_, rfl⟩ | ⟨_, rfl⟩ := entries target value present <;> cases container
  have ok : (resolveAll setup).result (start flat) = .ok () := by cbv
  exact ⟨holds, plainly, ok, (resolveAll_of_references rfl holds plainly).1.1 ok⟩

/-- A container that is written with a dollar sign can bring in a variable, so without the condition
on containers an acyclic document need not be resolved. -/
theorem not_resolveAll_of_dollar :
    ¬ ∀ (setup : Setup) (flat : Flat) (template : String → Template),
      setup.registry = .standard → HoldsReferences setup flat template →
        ((resolveAll setup).result (start flat) = .ok () ↔
          ∀ key, ¬ TransGen (Refers setup flat template) key key) := by
  intro claim
  let setup : Setup := ⟨.standard, ⟨fun _ _ => .output "", fun _ => none, false⟩, .standard⟩
  let flat := Flat.ofList [("a", .arr [.str "$x"]), ("b", .str "$\x7ba\x7d")]
  let template : String → Template := fun _ => [.reference "a" (by decide) (by decide)]
  have strings : ∀ key text, flat.get? key = some (.str text) →
      key = "b" ∧ text = "$\x7ba\x7d" := by
    intro key text present
    simpa [flat, Flat.ofList, Entries.ofList, Entries.put] using Entries.mem_of_get? present
  have leads : target? setup flat "a" = some "a" := by cbv
  have holds : HoldsReferences setup flat template := by
    refine ⟨?_, ?_, ?_⟩ <;> intro key text present <;>
      obtain ⟨rfl, rfl⟩ := strings key text present
    · rfl
    · intro payload mem
      obtain rfl : payload = "a" := by simpa [template] using mem
      rw [leads]
      rfl
    · decide
  have edges : ∀ {owner target}, Refers setup flat template owner target →
      owner = "b" ∧ target = "a" := by
    rintro owner target ⟨text, payload, present, mem, found⟩
    obtain rfl : payload = "a" := by simpa [template] using mem
    exact ⟨(strings owner text present).1, (Option.some.inj (leads.symm.trans found)).symm⟩
  have acyclic : ∀ key, ¬ TransGen (Refers setup flat template) key key := by
    intro key cycle
    obtain ⟨target, first, back⟩ := TransGen.head'_iff.1 cycle
    obtain ⟨rfl, rfl⟩ := edges first
    obtain same | ⟨_, second, _⟩ := ReflTransGen.cases_head back
    · exact absurd same (by decide)
    · exact absurd (edges second).1 (by decide)
  have failed : (resolveAll setup).result (start flat) =
      .error (.failure (.variableMissing "x")) := by cbv
  rw [(claim setup flat template rfl holds).2 acyclic] at failed
  cases failed

end Session

end ConfigTemplate
