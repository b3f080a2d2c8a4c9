import ConfigTemplate.Proofs.Placeholder.Reference
import ConfigTemplate.Proofs.Session.Acyclic
import ConfigTemplate.Proofs.Session.Conduct

/-!
# Precedence

While a text is substituted, each reference that was written in it to begin with stays in it until
the keys that the reference leads to are resolved: references come before everything else, and what
is spliced in for one of them leaves the others whole. So when a key is resolved, all keys that its
string mentions are resolved already, unless a substitution was given up because it made no
progress. No cycle of references can be left undetected.
-/

namespace ConfigTemplate

open Placeholder (HoldsReference)

/-- The key that is resolved with an event. -/
def Event.settled? : Event → Option String
  | .settled key _ => some key
  | _ => none

/-- Whether an event tells that a replacement left a text as it was. -/
def Event.isStall : Event → Bool
  | .stalled .. => true
  | _ => false

theorem Event.IsQuiet.settled?_eq {event : Event} (h : event.IsQuiet) : event.settled? = none := by
  cases event <;> first | rfl | exact h.elim

namespace Journal

variable {journal : Journal} {event : Event}

/-- The keys that were resolved, in this order. -/
def settledKeys (journal : Journal) : List String := journal.reverse.filterMap Event.settled?

/-- Whether every substitution made progress. -/
def Progresses (journal : Journal) : Prop := ∀ event ∈ journal, event.isStall = false

theorem settledKeys_cons_of_none (h : event.settled? = none) :
    settledKeys (event :: journal) = journal.settledKeys := by
  simp [settledKeys, h]

theorem settledKeys_cons_settled (key : String) (value : Json) :
    settledKeys (.settled key value :: journal) = journal.settledKeys ++ [key] := by
  simp [settledKeys, Event.settled?]

/-- What was resolved at some time was resolved. -/
theorem settledKeys_subset {later : Journal} (h : journal <:+ later) :
    journal.settledKeys ⊆ later.settledKeys := by
  obtain ⟨events, rfl⟩ := h
  simp [settledKeys]

end Journal

namespace Session

open ConfigTemplate.Action Relation

variable {setup : Setup} {flat : Flat} {underway : List String} {s t u : Session}
variable {key expression : String} {value : Json}

/-- Whether the string of a key holds a reference that leads to another key. -/
def Mentions (setup : Setup) (flat : Flat) (owner target : String) : Prop :=
  ∃ text payload, flat.get? owner = some (.str text) ∧ HoldsReference text payload ∧
    LeadsTo setup flat (Text.trimmed payload) target

/-- Whether the keys that an expression leads to are resolved, and there are some. -/
structure Followed (setup : Setup) (flat : Flat) (expression : String) (s : Session) : Prop where
  leads : ∃ target, LeadsTo setup flat expression target
  resolved : ∀ target, LeadsTo setup flat expression target → s.mark target = .resolved

theorem Followed.noted (h : Followed setup flat expression s) (event : Event) :
    Followed setup flat expression (s.noted event) :=
  ⟨h.leads, h.resolved⟩

/-- Whether each reference in the string of a key leads to some keys, all of which come before the
key in a list. -/
def ComesLast (setup : Setup) (flat : Flat) (order : List String) (key : String) : Prop :=
  ∀ text payload, flat.get? key = some (.str text) → HoldsReference text payload →
    (∃ target, LeadsTo setup flat (Text.trimmed payload) target) ∧
      ∀ target, LeadsTo setup flat (Text.trimmed payload) target → [target, key].Sublist order

/-- Whether a session tells of its resolved keys in an order in which each key comes after those
that its string mentions, as long as every substitution made progress. -/
structure Ordered (setup : Setup) (flat : Flat) (underway : List String) (s : Session) : Prop
    extends Tracks flat underway s where
  settled_iff : ∀ key, key ∈ s.journal.settledKeys ↔ s.mark key = .resolved
  distinct : s.journal.settledKeys.Nodup
  comesLast : s.journal.Progresses → ∀ key, s.mark key = .resolved →
    ComesLast setup flat s.journal.settledKeys key

theorem ordered_start (setup : Setup) (flat : Flat) : Ordered setup flat [] (start flat) where
  toTracks := .start flat
  settled_iff key := by simp [start, Journal.settledKeys, mark]
  distinct := .nil
  comesLast _ key resolved := by simp at resolved

/-- More keys in the end leave the order of the others. -/
theorem ComesLast.append {order : List String} (h : ComesLast setup flat order key)
    (more : List String) : ComesLast setup flat (order ++ more) key := by
  intro text payload present held
  obtain ⟨leads, first⟩ := h text payload present held
  exact ⟨leads, fun target found =>
    (first target found).trans (List.sublist_append_left order more)⟩

namespace Ordered

theorem of_sameMemory (h : Ordered setup flat underway s) (same : SameMemory s t)
    (events : t.journal.settledKeys = s.journal.settledKeys)
    (progresses : t.journal.Progresses → s.journal.Progresses) :
    Ordered setup flat underway t where
  toTracks := h.toTracks.of_sameMemory same
  settled_iff key := by rw [events, h.settled_iff, same.resolved]
  distinct := events ▸ h.distinct
  comesLast goes key resolved := by
    rw [events]
    exact h.comesLast (progresses goes) key ((same.resolved key).1 resolved)

theorem noted (h : Ordered setup flat underway s) {event : Event} (quiet : event.IsQuiet) :
    Ordered setup flat underway (s.noted event) :=
  h.of_sameMemory (sameMemory_noted ..) (Journal.settledKeys_cons_of_none quiet.settled?_eq)
    fun goes => (List.forall_mem_cons.1 goes).2

theorem entering (h : Ordered setup flat underway s) (unresolved : s.mark key ≠ .resolved) :
    Ordered setup flat (underway ++ [key]) (s.entering key) := by
  have appended : Ordered setup flat (underway ++ [key]) s :=
    { h with toTracks := h.toTracks.append unresolved }
  exact appended.of_sameMemory (sameMemory_entering unresolved)
    (Journal.settledKeys_cons_of_none rfl) fun goes => (List.forall_mem_cons.1 goes).2

/-- A key may be settled when all that its string mentions is resolved. -/
theorem settled (h : Ordered setup flat (underway ++ [key]) s) (fresh : key ∉ underway)
    (change : Settled s key value t) (journal : t.journal = .settled key value :: s.journal)
    (followed : s.journal.Progresses → ∀ text payload, flat.get? key = some (.str text) →
      HoldsReference text payload → Followed setup flat (Text.trimmed payload) s) :
    Ordered setup flat underway t where
  toTracks := h.toTracks.settled fresh change
  settled_iff other := by
    rw [journal, Journal.settledKeys_cons_settled, List.mem_append, h.settled_iff,
      List.mem_singleton]
    by_cases same : key = other
    · subst same
      simp [change.mark]
    · rw [change.marks other same]
      simp [Ne.symm same]
  distinct := by
    rw [journal, Journal.settledKeys_cons_settled, ← List.concat_eq_append]
    exact h.distinct.concat fun listed => h.unresolved ((h.settled_iff key).1 listed)
  comesLast goes other resolved := by
    rw [journal] at goes ⊢
    have progresses := (List.forall_mem_cons.1 goes).2
    rw [Journal.settledKeys_cons_settled]
    by_cases same : key = other
    · subst same
      intro text payload present held
      obtain ⟨leads, targets⟩ := followed progresses text payload present held
      refine ⟨leads, fun target found => ?_⟩
      have earlier := (h.settled_iff target).2 (targets target found)
      exact (List.singleton_sublist.2 earlier).append (List.Sublist.refl [key])
    · rw [change.marks other same] at resolved
      exact (h.comesLast progresses other resolved).append [key]

end Ordered

/-- Whether a session in order comes after another one. -/
structure GoesOn (setup : Setup) (flat : Flat) (underway : List String) (s t : Session) : Prop where
  ordered : Ordered setup flat underway t
  journal : s.journal <:+ t.journal

namespace GoesOn

theorem refl (h : Ordered setup flat underway s) : GoesOn setup flat underway s s :=
  ⟨h, List.suffix_rfl⟩

theorem trans (first : GoesOn setup flat underway s t) (second : GoesOn setup flat underway t u) :
    GoesOn setup flat underway s u :=
  ⟨second.ordered, first.journal.trans second.journal⟩

theorem noted (h : Ordered setup flat underway s) {event : Event} (quiet : event.IsQuiet) :
    GoesOn setup flat underway s (s.noted event) :=
  ⟨h.noted quiet, List.suffix_cons ..⟩

/-- What is resolved remains so. -/
theorem resolved (h : GoesOn setup flat underway s t) {before : List String}
    (ordered : Ordered setup flat before s) (known : s.mark key = .resolved) :
    t.mark key = .resolved := by
  have listed := (ordered.settled_iff key).2 known
  exact (h.ordered.settled_iff key).1 (Journal.settledKeys_subset h.journal listed)

/-- What was followed remains so. -/
theorem followed (h : GoesOn setup flat underway s t) {before : List String}
    (ordered : Ordered setup flat before s) (followed : Followed setup flat expression s) :
    Followed setup flat expression t :=
  ⟨followed.leads, fun target leads => h.resolved ordered (followed.resolved target leads)⟩

end GoesOn

/-! ### Work in order -/

/-- Whether an action, begun in a session in order, goes on in order and ensures something, as far
as it gives a result. -/
def Proceeds {α : Type} (setup : Setup) (flat : Flat) (underway : List String)
    (post : α → Session → Prop) (action : Action α) (s : Session) : Prop :=
  Ensures (fun _ => True) (fun x t => GoesOn setup flat underway s t ∧ post x t) action s

namespace Proceeds

variable {α β : Type} {post : α → Session → Prop}

theorem pure {x : α} (h : Ordered setup flat underway s) (holds : post x s) :
    Proceeds setup flat underway post (pure x) s :=
  .of_ok (result_pure ..) ⟨.refl h, holds⟩

/-- An action without a result has nothing to ensure. -/
theorem stopped {action : Action α} {halt : Halt} (h : action.result s = .error halt) :
    Proceeds setup flat underway post action s :=
  .of_error h trivial

theorem bind {after : β → Session → Prop} {action : Action α} {next : α → Action β}
    (first : Proceeds setup flat underway post action s)
    (rest : ∀ x t, GoesOn setup flat underway s t → post x t →
      Proceeds setup flat underway after (next x) t) :
    Proceeds setup flat underway after (action >>= next) s := by
  refine Ensures.bind first ?_
  rintro x t ⟨goesOn, holds⟩
  refine (rest x t goesOn holds).mono ?_
  rintro y u ⟨further, holds'⟩
  exact ⟨goesOn.trans further, holds'⟩

theorem get_bind {next : Session → Action α}
    (h : Proceeds setup flat underway post (next s) s) :
    Proceeds setup flat underway post (get >>= next) s :=
  Ensures.get_bind h

theorem note_bind {event : Event} {next : Unit → Action α} (h : Ordered setup flat underway s)
    (quiet : event.IsQuiet) (rest : Ordered setup flat underway (s.noted event) →
      Proceeds setup flat underway post (next ()) (s.noted event)) :
    Proceeds setup flat underway post (note event >>= next) s := by
  have noted := GoesOn.noted h quiet
  refine Ensures.note_bind ((rest noted.ordered).mono ?_)
  rintro x t ⟨goesOn, holds⟩
  exact ⟨noted.trans goesOn, holds⟩

/-- What only tells of something goes on in order. -/
theorem of_onlyTells {action : Action α} (tells : OnlyTells action)
    (h : Ordered setup flat underway s) :
    Proceeds setup flat underway (fun _ _ => True) action s := by
  have goesOn {t : Session} (way : ReflTransGen
      (fun s t => ∃ event : Event, event.IsQuiet ∧ t = s.noted event) s t) :
      GoesOn setup flat underway s t := by
    induction way with
    | refl => exact .refl h
    | tail _ last ih =>
      obtain ⟨event, quiet, rfl⟩ := last
      exact ih.trans (.noted ih.ordered quiet)
  cases result : action.result s with
  | error halt => exact .of_error result trivial
  | ok x => exact .of_ok result ⟨goesOn (tells.tells s), trivial⟩

/-- What was found is taken, or there is no result. -/
theorem orMissing (missing : Failure) (found : Except Failure α)
    (h : Ordered setup flat underway s) :
    Proceeds setup flat underway (fun x _ => found = .ok x) (orMissing missing found) s := by
  unfold Session.orMissing
  split
  · exact .pure h rfl
  · exact .stopped (result_fail ..)
  · exact .stopped (result_fail ..)

end Proceeds

/-- Whether a way to enter keys resolves them in order, as far as it gives results. -/
def EntersInOrder (setup : Setup) (flat : Flat) (underway : List String) (enter : Enter) : Prop :=
  ∀ key s, Ordered setup flat underway s →
    Proceeds setup flat underway (fun _ t => t.mark key = .resolved) (enter key) s

section Enter

variable {enter : Enter} (enters : EntersInOrder setup flat underway enter)

include enters

/-- All elements are resolved, also those without a text. -/
theorem proceeds_elementTexts {keys : List String} (h : Ordered setup flat underway s) :
    Proceeds setup flat underway
      (fun texts t => (∀ key ∈ keys, t.mark key = .resolved) ∧ (keys = [] → texts = []))
      (elementTexts enter keys) s := by
  induction keys generalizing s with
  | nil => exact .pure h ⟨by simp, fun _ => rfl⟩
  | cons key rest ih =>
    refine (enters key s h).bind fun value t first resolved => ?_
    refine (ih first.ordered).bind fun others u second more => ?_
    refine .pure second.ordered ⟨?_, fun none => by cases none⟩
    exact List.forall_mem_cons.2 ⟨second.resolved first.ordered resolved, more.1⟩

/-- Where the elements of an array are joined, there are some and all are resolved. -/
theorem proceeds_joinElements {missing : Failure} {join : Join}
    (h : Ordered setup flat underway s) :
    Proceeds setup flat underway
      (fun _ t => ∃ found paths,
        flat.pickArray setup.options.uniqueMatch join.path = .ok found ∧
        flat.elementPaths join.path found.chosen = .ok paths ∧ paths ≠ [] ∧
        ∀ path ∈ paths, t.mark path = .resolved)
      (joinElements setup enter missing join) s := by
  rw [← Flat.pickArray_eq_of_shape h.shape]
  simp only [← Flat.elementPaths_eq_of_shape h.shape]
  unfold joinElements
  refine .get_bind ?_
  refine (Proceeds.orMissing missing _ h).bind fun found t goesOn array => ?_
  refine (Proceeds.of_onlyTells (.notePick join.path found) goesOn.ordered).bind
    fun _ t noted _ => ?_
  refine (Proceeds.orMissing missing _ noted.ordered).bind fun paths t goesOn listed => ?_
  refine (proceeds_elementTexts enters goesOn.ordered).bind fun texts t goesOn resolved => ?_
  dsimp only
  split
  · exact .stopped (result_bind_of_error (result_fail ..) _)
  next some =>
    refine .note_bind goesOn.ordered trivial fun ordered => ?_
    refine .pure ordered ⟨found, paths, array, listed, ?_, resolved.1⟩
    rintro rfl
    exact some (by rw [resolved.2 rfl]; rfl)

variable (standard : setup.registry = .standard)

include standard

/-- What a reference leads to is resolved. -/
theorem proceeds_follow (h : Ordered setup flat underway s) :
    Proceeds setup flat underway (fun _ t => Followed setup flat expression t)
      (follow setup enter expression) s := by
  unfold follow
  apply Proceeds.get_bind
  rw [Flat.resolve_eq_of_shape h.shape]
  split
  next found leads =>
    refine (Proceeds.of_onlyTells (.notePick expression found) h).bind fun _ t noted _ => ?_
    refine (enters found.chosen t noted.ordered).mono ?_
    rintro value u ⟨goesOn, resolved⟩
    refine ⟨goesOn, ⟨_, .direct leads rfl⟩, fun target other => ?_⟩
    cases other with
    | direct leads' chosen =>
      obtain rfl := Except.ok.inj (leads.symm.trans leads')
      exact chosen ▸ resolved
    | element missed => cases leads.symm.trans missed
  next missing why missed =>
    have usual : setup.registry.get? .keyNotFound = some .joinElements := by
      rw [standard]
      rfl
    unfold recover
    simp only [Failure.kind, usual, applyHandler]
    split
    next join joined =>
      refine (proceeds_joinElements enters h).bind ?_
      rintro text t goesOn ⟨found, paths, array, listed, some, resolved⟩
      obtain ⟨path, mem⟩ := List.exists_mem_of_ne_nil paths some
      refine .pure goesOn.ordered ⟨⟨path, .element missed joined array listed mem⟩, ?_⟩
      intro target leads
      cases leads with
      | direct leads => cases leads.symm.trans missed
      | element missed' joined' array' listed' mem =>
        cases missed.symm.trans missed'
        obtain rfl := Option.some.inj (joined.symm.trans joined')
        obtain rfl := Except.ok.inj (array.symm.trans array')
        obtain rfl := Except.ok.inj (listed.symm.trans listed')
        exact resolved target mem
    · exact .stopped (result_bind_of_error (result_fail ..) _)
  · exact .stopped (result_fail ..)

/-- A reference is replaced once all that it leads to is resolved. -/
theorem proceeds_replacement {p : Placeholder} (owner : Option String) (source : String)
    (h : Ordered setup flat underway s) :
    Proceeds setup flat underway
      (fun _ t => p.kind = .reference → Followed setup flat (Text.trimmed p.payload) t)
      (replacement setup enter owner source p) s := by
  unfold replacement
  cases p.kind with
  | reference =>
    refine Ensures.attempt_bind (proceeds_follow enters standard h) ?_ ?_
    · rintro value t ⟨goesOn, followed⟩
      exact .of_ok (result_pure ..) ⟨goesOn, fun _ => followed⟩
    · rintro (failure | mishap) _
      · exact .of_error (result_fail ..) trivial
      · exact .of_error (result_fail ..) trivial
  | command =>
    refine (Proceeds.of_onlyTells (.runCommand setup source p.payload) h).mono ?_
    rintro _ t ⟨goesOn, _⟩
    exact ⟨goesOn, fun other => by cases other⟩
  | envVar =>
    refine (Proceeds.of_onlyTells (.bind (.note (by trivial)) fun _ => .readVariable ..) h).mono ?_
    rintro _ t ⟨goesOn, _⟩
    exact ⟨goesOn, fun other => by cases other⟩

/-- When a text is substituted, each reference that was written in it to begin with is still there
or was followed. -/
theorem proceeds_substitute {original : String} (owner : Option String) {count : Nat}
    {text : String} (h : Ordered setup flat underway s)
    (kept : ∀ payload, HoldsReference original payload →
      HoldsReference text payload ∨ Followed setup flat (Text.trimmed payload) s) :
    Proceeds setup flat underway
      (fun _ t => t.journal.Progresses → ∀ payload, HoldsReference original payload →
        Followed setup flat (Text.trimmed payload) t)
      (substitute setup enter owner count text) s := by
  obtain ⟨others, kinds⟩ := exists_kinds setup
  induction count generalizing text s with
  | zero =>
    unfold substitute
    split
    next none =>
      refine .pure h fun _ payload held => (kept payload held).resolve_left ?_
      exact Placeholder.not_holdsReference_of_none (kinds ▸ none)
    · exact .stopped (result_fail ..)
  | succ count ih =>
    unfold substitute
    split
    next none =>
      refine .pure h fun _ payload held => (kept payload held).resolve_left ?_
      exact Placeholder.not_holdsReference_of_none (kinds ▸ none)
    next p found =>
      refine (proceeds_replacement enters standard owner text h).bind
        fun new t goesOn followed => ?_
      refine .note_bind goesOn.ordered trivial fun noted => ?_
      dsimp only
      split
      · -- The substitution is given up, and the journal tells so.
        refine .note_bind noted trivial fun stalled => .pure stalled fun goes => ?_
        cases (List.forall_mem_cons.1 goes).1
      · refine ih noted fun payload held => ?_
        obtain there | earlier := kept payload held
        · by_cases reference : p.kind = .reference
          · obtain rfl | rest := there.splice found reference new
            · exact .inr ((followed reference).noted _)
            · exact .inl rest
          · rw [kinds] at found
            exact absurd there (Placeholder.not_holdsReference_of_kind found reference)
        · exact .inr ((goesOn.followed h earlier).noted _)

end Enter

/-- A key is settled in order when its value was found and may be settled. What is told of the value
afterwards changes neither the order nor the marks. -/
theorem proceeds_of_settled {enter : Enter}
    (result : (resolveValue setup enter key).result (s.entering key) = .ok value)
    (final : (resolveValue setup enter key).final (s.entering key) = t)
    (settled : Ordered setup flat underway (t.settledOn key value))
    (later : s.journal <:+ t.journal) :
    Proceeds setup flat underway (fun _ t => t.mark key = .resolved)
      (enterKey setup enter key) s := by
  have told := Proceeds.of_onlyTells (.noteWithheld setup key value) settled
  obtain ⟨goesOn, _⟩ := told.ok (result_noteWithheld ..)
  have suffix : s.journal <:+ (t.settledOn key value).journal :=
    later.trans (List.suffix_cons ..)
  refine .of_ok (result_enterKey.trans result) ?_
  rw [final_enterKey_of_ok result, final]
  exact ⟨⟨goesOn.ordered, suffix.trans goesOn.journal⟩,
    goesOn.resolved settled (mark_marked_self ..)⟩

section Standard

variable (standard : setup.registry = .standard)

include standard

/-- A key that is entered is settled after all that its string mentions. -/
theorem proceeds_enterKey {enter : Enter}
    (enters : EntersInOrder setup flat (underway ++ [key]) enter) (fresh : key ∉ underway)
    (h : Ordered setup flat underway s) (unresolved : s.mark key ≠ .resolved) :
    Proceeds setup flat underway (fun _ t => t.mark key = .resolved)
      (enterKey setup enter key) s := by
  have entered := h.entering unresolved
  have begun : s.journal <:+ (s.entering key).journal := List.suffix_cons ..
  cases present : (s.entering key).flat.get? key with
  | none => exact .stopped (result_enterKey.trans (result_resolveValue_of_none present))
  | some value =>
    obtain ⟨text, rfl⟩ | other := value.eq_str_or
    · have result : (resolveValue setup enter key).result (s.entering key) = _ :=
        result_resolveValue_of_str present
      have kept : ∀ payload, HoldsReference text payload → HoldsReference text payload ∨
          Followed setup flat (Text.trimmed payload) (s.entering key) := fun _ => .inl
      have substituted : Proceeds setup flat (underway ++ [key]) _
          (substituteAll setup enter (some key) text) (s.entering key) :=
        proceeds_substitute enters standard (some key) entered kept
      cases done : (substituteAll setup enter (some key) text).result (s.entering key) with
      | error halt =>
        rw [done] at result
        exact .stopped (result_enterKey.trans result)
      | ok new =>
        rw [done] at result
        obtain ⟨goesOn, followed⟩ := substituted.ok done
        have held := goesOn.ordered.original.trans (entered.original.symm.trans present)
        refine proceeds_of_settled result (final_resolveValue_of_ok present done) ?_
          (begun.trans goesOn.journal)
        refine goesOn.ordered.settled fresh (settled_stored held new) rfl fun goes other payload
          original mentioned => ?_
        obtain rfl := Json.str.inj
          (Option.some.inj (original.symm.trans (entered.original.symm.trans present)))
        exact followed goes payload mentioned
    · refine proceeds_of_settled (result_resolveValue_of_ne_str present other)
        (final_resolveValue_of_ne_str present other) ?_ begun
      refine entered.settled fresh (settled_settledOn present) rfl fun _ text _ original => ?_
      exact absurd (Option.some.inj (present.symm.trans (entered.original.trans original)))
        (other text)

/-- One step resolves a key in order when the deeper steps do. -/
theorem proceeds_resolveStep {deeper : Trail → Enter}
    (deep : ∀ longer, EntersInOrder setup flat longer.keys (deeper longer)) (trail : Trail) :
    EntersInOrder setup flat trail.keys (answerStep setup deeper trail) := by
  intro key s h
  change Proceeds setup flat trail.keys _ (resolveStep setup deeper trail key) s
  by_cases resolved : s.mark key = .resolved
  · cases present : s.flat.get? key with
    | none =>
      have result : (resolveStep setup deeper trail key).result s =
          .error (.mishap (.unknownPath key)) := by
        rw [resolveStep, result_bind_of_ok (result_get s), final_get, if_pos resolved]
        simp only [present, result_breakOff]
      exact .stopped result
    | some value =>
      obtain ⟨result, final⟩ := resolveStep_of_resolved setup deeper trail resolved present
      refine .of_ok result ?_
      rw [final]
      exact ⟨.refl h, resolved⟩
  · cases pushed : trail.push key with
    | error failure =>
      obtain ⟨_, rfl⟩ := Trail.mem_of_push_eq_error pushed
      have result := (resolveStep_of_loop setup deeper resolved pushed).1
      rw [result_recover_of_standard standard] at result
      exact .stopped result
    | ok longer =>
      obtain ⟨result, final⟩ := resolveStep_of_push setup deeper resolved pushed
      have proceeds := proceeds_enterKey standard (Trail.keys_of_push pushed ▸ deep longer)
        (Trail.not_mem_of_push pushed) h resolved
      unfold Proceeds Ensures at proceeds ⊢
      rwa [result, final]

theorem entersInOrder_resolveOn (flat : Flat) (room : Nat) (trail : Trail) :
    EntersInOrder setup flat trail.keys (resolveOn setup room trail) := by
  induction room generalizing trail with
  | zero =>
    have stopped (key : String) (s : Session) :
        (exhausted key).result s = .error (.mishap .tooDeep) := rfl
    exact proceeds_resolveStep standard (fun _ _ _ _ => .stopped (stopped ..)) trail
  | succ room ih => exact proceeds_resolveStep standard ih trail

/-- Keys are resolved one after the other in order. -/
theorem proceeds_resolveEach {keys : List String} (h : Ordered setup flat [] s) :
    Proceeds setup flat [] (fun _ t => ∀ key ∈ keys, t.mark key = .resolved)
      (resolveEach (atRest setup) keys) s := by
  induction keys generalizing s with
  | nil => exact .pure h (by simp)
  | cons key rest ih =>
    have first : Proceeds setup flat [] (fun _ t => t.mark key = .resolved)
        (resolveKey setup key) s :=
      .get_bind (entersInOrder_resolveOn standard flat _ .empty key s h)
    refine first.bind fun value t goesOn resolved => ?_
    refine (ih goesOn.ordered).mono ?_
    rintro _ u ⟨further, others⟩
    exact ⟨further, List.forall_mem_cons.2 ⟨further.resolved goesOn.ordered resolved, others⟩⟩

/-- The resolution of everything resolves all keys with placeholders in order. -/
theorem proceeds_resolveAll (flat : Flat) :
    Proceeds setup flat [] (fun _ t => ∀ key ∈ pending setup (start flat), t.mark key = .resolved)
      (resolveAll setup) (start flat) := by
  unfold resolveAll resolvePending
  apply Proceeds.get_bind
  dsimp only
  split
  next empty =>
    rw [List.isEmpty_iff.1 empty]
    refine (Proceeds.of_onlyTells (.note (by trivial)) (ordered_start setup flat)).mono ?_
    rintro _ t ⟨goesOn, _⟩
    exact ⟨goesOn, by simp⟩
  · exact .note_bind (ordered_start setup flat) trivial fun noted =>
      proceeds_resolveEach standard noted

end Standard

/-! ### No cycle is missed -/

/-- A string that holds a reference is pending in a session that has done nothing yet. -/
theorem mem_pending_of_holdsReference {text payload : String}
    (present : flat.get? key = some (.str text)) (held : HoldsReference text payload) :
    key ∈ pending setup (start flat) := by
  obtain ⟨others, kinds⟩ := exists_kinds setup
  obtain ⟨p, found, _⟩ := held.exists_scan others
  refine mem_pending_iff.2 ⟨by simp, .str text, present, ?_⟩
  rw [kinds, isPending, Placeholder.occurs, found]
  rfl

/-- In a list without repetitions what stands before something else has the lesser index. -/
private theorem idxOf_lt_of_sublist {order : List String} (distinct : order.Nodup)
    {first second : String} (h : [first, second].Sublist order) :
    order.idxOf first < order.idxOf second := by
  induction order with
  | nil => cases h
  | cons key rest ih =>
    rw [List.nodup_cons] at distinct
    have apart {other : String} (mem : other ∈ rest) : key ≠ other :=
      fun same => distinct.1 (same ▸ mem)
    cases h with
    | cons _ later =>
      have mem := later.subset
      rw [List.idxOf_cons_ne _ (apart (mem (by simp))),
        List.idxOf_cons_ne _ (apart (mem (by simp)))]
      exact Nat.succ_lt_succ (ih distinct.2 later)
    | cons_cons _ later =>
      have mem := later.subset
      rw [List.idxOf_cons_self, List.idxOf_cons_ne _ (apart (mem (by simp)))]
      exact Nat.succ_pos _

/-- Where each key comes after those that its string mentions, it comes after all that these mention
in turn. -/
theorem idxOf_lt_of_mentions {order : List String} (distinct : order.Nodup)
    (comesLast : ∀ key, ComesLast setup flat order key) {owner target : String}
    (path : TransGen (Mentions setup flat) owner target) :
    order.idxOf target < order.idxOf owner := by
  have edge {owner target : String} (h : Mentions setup flat owner target) :
      order.idxOf target < order.idxOf owner := by
    obtain ⟨text, payload, present, held, leads⟩ := h
    exact idxOf_lt_of_sublist distinct ((comesLast owner text payload present held).2 target leads)
  induction path with
  | single h => exact edge h
  | tail _ h ih => exact (edge h).trans ih

/-- When everything is resolved with the usual handlers and every substitution made progress, each
key of which the string holds references was resolved after all keys that these lead to, elements of
joined arrays included, and each of the references leads to some key. So no key mentions itself over
some references. -/
theorem comesLast_resolveAll (standard : setup.registry = .standard) (flat : Flat)
    (done : (resolveAll setup).result (start flat) = .ok ())
    (progresses : ((resolveAll setup).final (start flat)).journal.Progresses) :
    let final := (resolveAll setup).final (start flat)
    (∀ key, key ∈ final.journal.settledKeys ↔ final.mark key = .resolved) ∧
      final.journal.settledKeys.Nodup ∧
      (∀ key, ComesLast setup flat final.journal.settledKeys key) ∧
      ∀ key, ¬ TransGen (Mentions setup flat) key key := by
  intro final
  obtain ⟨goesOn, resolved⟩ := (proceeds_resolveAll standard flat).ok done
  have ordered := goesOn.ordered
  have comesLast : ∀ key, ComesLast setup flat final.journal.settledKeys key := by
    intro key text payload present held
    have known := resolved key (mem_pending_of_holdsReference present held)
    exact ordered.comesLast progresses key known text payload present held
  exact ⟨ordered.settled_iff, ordered.distinct, comesLast, fun key cycle =>
    Nat.lt_irrefl _ (idxOf_lt_of_mentions ordered.distinct comesLast cycle)⟩

/-- What is spliced in front of a reference is half of a reference itself, which the elements of a
joined array complete. They come before the key that joins them, also the one without a text. -/
theorem comesLast_resolveAll_join :
    let setup : Setup := ⟨.standard, ⟨fun _ _ => .output "", fun _ => none, false⟩, .standard⟩
    let flat := Flat.ofList [("a", .str "$\x7bb\x7d$\x7bc.join(,)\x7d\x7d"), ("b", .str "$\x7b"),
      ("c[1]", .str "$\x7bd\x7d"), ("c[0]", .str "1"), ("d", .str ""), ("1", .int 7)]
    setup.registry = .standard ∧ (resolveAll setup).result (start flat) = .ok () ∧
      ((resolveAll setup).final (start flat)).journal.Progresses ∧
      ((resolveAll setup).final (start flat)).journal.settledKeys =
        ["b", "c[0]", "d", "c[1]", "1", "a"] ∧
      (∀ key, ComesLast setup flat ["b", "c[0]", "d", "c[1]", "1", "a"] key) ∧
      ∀ key, ¬ TransGen (Mentions setup flat) key key := by
  intro setup flat
  have done : (resolveAll setup).result (start flat) = .ok () := by cbv
  have progresses : ((resolveAll setup).final (start flat)).journal.Progresses := by
    have none : ((resolveAll setup).final (start flat)).journal.all (!·.isStall) = true := by cbv
    simpa [Journal.Progresses] using none
  have order : ((resolveAll setup).final (start flat)).journal.settledKeys =
      ["b", "c[0]", "d", "c[1]", "1", "a"] := by cbv
  obtain ⟨_, _, comesLast, acyclic⟩ := comesLast_resolveAll rfl flat done progresses
  rw [order] at comesLast
  exact ⟨rfl, done, progresses, order, comesLast, acyclic⟩

end Session

end ConfigTemplate
