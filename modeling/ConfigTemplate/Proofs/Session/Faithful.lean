import ConfigTemplate.Proofs.Session.Memory
import ConfigTemplate.Proofs.Session.Trail
import ConfigTemplate.Proofs.Session.Value

/-!
# Faithful sessions

A session over a flat document is faithful when its resolved keys hold their values and its other
keys hold what the document holds. Whatever is resolved in a faithful session, and whether or not
it succeeds, the session stays faithful, and a result is a value of its key.
-/

namespace ConfigTemplate

/-- Whether a registry has a handler that answers a loop with a text. -/
def Registry.RecoversLoops (registry : Registry) : Prop :=
  ∃ respond, registry.get? .circularDependency = some (.reply respond) ∧
    ∃ key trail text, respond (.circular key trail) = .answer text

namespace Session

open ConfigTemplate.Action

/-- Whether a session is faithful to a flat document while some keys are being resolved. -/
structure Faithful (setup : Setup) (flat : Flat) (underway : List String) (s : Session) : Prop
    extends Tracks flat underway s where
  resolved : ∀ key, s.mark key = .resolved →
    ∃ value, s.flat.get? key = some value ∧ HasValue setup flat key value

variable {setup : Setup} {flat : Flat} {underway : List String} {key : String} {value : Json}
variable {s t : Session}

theorem faithful_start (setup : Setup) (flat : Flat) : Faithful setup flat [] (start flat) where
  toTracks := .start flat
  resolved key h := by simp at h

namespace Faithful

theorem of_sameMemory (h : Faithful setup flat underway s) (same : SameMemory s t) :
    Faithful setup flat underway t where
  toTracks := h.toTracks.of_sameMemory same
  resolved key known := same.flat ▸ h.resolved key ((same.resolved key).1 known)

theorem noted (h : Faithful setup flat underway s) (event : Event) :
    Faithful setup flat underway (s.noted event) :=
  h.of_sameMemory (sameMemory_noted ..)

theorem aside (h : Faithful setup flat underway s) (event : Event) (_ : event.IsAside) :
    Faithful setup flat underway (s.noted event) :=
  h.noted event

/-- A key that is entered is being resolved as well. -/
theorem entering (h : Faithful setup flat underway s) (unresolved : s.mark key ≠ .resolved) :
    Faithful setup flat (underway ++ [key]) (s.entering key) :=
  .of_sameMemory ⟨h.toTracks.append unresolved, h.resolved⟩ (sameMemory_entering unresolved)

/-- A key whose resolution failed is no longer being resolved. -/
theorem gaveUpOn (h : Faithful setup flat (underway ++ [key]) s) :
    Faithful setup flat underway (s.gaveUpOn key) :=
  .of_sameMemory ⟨h.toTracks.of_append, h.resolved⟩ (sameMemory_gaveUpOn h.unresolved)

/-- A key may be settled on its value. -/
theorem settled (h : Faithful setup flat (underway ++ [key]) s) (fresh : key ∉ underway)
    (change : Settled s key value t) (valued : HasValue setup flat key value) :
    Faithful setup flat underway t where
  toTracks := h.toTracks.settled fresh change
  resolved k known := by
    by_cases same : key = k
    · subst same
      exact ⟨value, change.value, valued⟩
    · rw [change.marks k same] at known
      rw [change.values k same]
      exact h.resolved k known

end Faithful

/-- Whether a way to enter keys keeps a session faithful and gives values only. -/
def IsSound (setup : Setup) (flat : Flat) (underway : List String) (enter : Enter) : Prop :=
  ∀ key s, Faithful setup flat underway s →
    Faithful setup flat underway ((enter key).final s) ∧
      ∀ value, (enter key).result s = .ok value → HasValue setup flat key value

theorem IsSound.keeps {enter : Enter} (sound : IsSound setup flat underway enter) (key : String) :
    Keeps (Faithful setup flat underway) (enter key) :=
  fun s faithful => (sound key s faithful).1

/-- Faithful sessions run in lockstep in an oblivious setup. -/
theorem lockstep_faithful (oblivious : setup.IsOblivious) (flat : Flat)
    (first second : List String) :
    Lockstep setup fun s t => Faithful setup flat first s ∧ Faithful setup flat second t where
  straight := oblivious.straight
  noted h event := ⟨h.1.noted event, h.2.noted event⟩
  shape h := h.1.shape.trans h.2.shape.symm
  answers _ command := (oblivious.host _ command).trans (oblivious.host _ command).symm

/-- A loop is never answered with a text when no handler does so. -/
theorem result_recover_loop (straight : setup.registry.IsStraight)
    (loops : ¬ setup.registry.RecoversLoops) (enter : Enter) (trail : List String) (s : Session)
    (text : String) :
    (recover setup enter (.circular key trail)).result s ≠ .ok text := by
  intro answered
  unfold recover at answered
  split at answered
  next handler registered =>
    cases handler with
    | joinElements => cases answered
    | reportLoop => cases answered
    | reply respond =>
      obtain ⟨text, given⟩ | ⟨halt, given⟩ :=
        (straight.loops respond registered (.circular key trail)).eq_answer_or
      · exact loops ⟨respond, registered, key, trail, text, given⟩
      · simp only [applyHandler, given, consult, result_throw, reduceCtorEq] at answered
  · cases answered

section Sound

variable (oblivious : setup.IsOblivious) (loops : ¬ setup.registry.RecoversLoops)

include oblivious

/-- What an unresolved key is resolved to is its value. -/
theorem hasValue_of_resolveValue {enter : Enter}
    (sound : IsSound setup flat underway enter) (faithful : Faithful setup flat underway s)
    (unresolved : s.mark key ≠ .resolved)
    (h : (resolveValue setup enter key).result s = .ok value) :
    HasValue setup flat key value := by
  obtain ⟨depth, enough⟩ := exists_depth oblivious flat
  have enters : ∀ other, Agree True
      (fun s t => Faithful setup flat underway s ∧ Faithful setup flat [] t)
      (enter other) (answering (valueWithin setup flat depth) other) := by
    refine fun other => .of_ok fun s t related found ok => ?_
    obtain ⟨kept, valued⟩ := sound other s related.1
    rw [result_answering, final_answering]
    exact ⟨enough other found (valued found ok), kept, related.2⟩
  have agree := (lockstep_faithful oblivious flat underway []).resolveValue enters
    ⟨faithful, faithful_start setup flat⟩ (faithful.others key unresolved)
  exact ⟨depth + 1, agree.result_ok h⟩

/-- A key that is entered is resolved to the value that follows from known ones, if its references
are resolved to these. -/
theorem result_enterKey_of_answering {enter : Enter}
    (sound : IsSound setup flat (underway ++ [key]) enter) {known : String → Except Halt Json}
    (gives : ∀ other w, known other = .ok w → ∀ t, Faithful setup flat (underway ++ [key]) t →
      (enter other).result t = .ok w)
    (faithful : Faithful setup flat underway s) (unresolved : s.mark key ≠ .resolved)
    (h : (resolveValue setup (answering known) key).result (start flat) = .ok value) :
    (enterKey setup enter key).result s = .ok value := by
  have entered := faithful.entering unresolved
  have enters : ∀ other, Agree True
      (fun s t => Faithful setup flat [] s ∧ Faithful setup flat (underway ++ [key]) t)
      (answering known other) (enter other) := by
    refine fun other => .of_ok fun s t related w ok => ?_
    rw [result_answering] at ok
    rw [final_answering]
    exact ⟨gives other w ok t related.2, related.1, (sound other t related.2).1⟩
  have agree := (lockstep_faithful oblivious flat [] (underway ++ [key])).resolveValue enters
    ⟨faithful_start setup flat, entered⟩ entered.original.symm
  rw [result_enterKey]
  exact agree.result_ok h

/-- The resolution of the value of a key that is being resolved leaves a faithful session, in which
the key may be marked as resolved if there is a result. -/
theorem faithful_resolveValue {enter : Enter}
    (sound : IsSound setup flat (underway ++ [key]) enter) (fresh : key ∉ underway)
    (h : Faithful setup flat (underway ++ [key]) s) :
    match (resolveValue setup enter key).result s with
    | .error _ => Faithful setup flat (underway ++ [key]) ((resolveValue setup enter key).final s)
    | .ok value =>
      Faithful setup flat underway
        (((resolveValue setup enter key).final s).settledOn key value) := by
  have valued : ∀ value, (resolveValue setup enter key).result s = .ok value →
      HasValue setup flat key value :=
    fun value => hasValue_of_resolveValue oblivious sound h h.unresolved
  cases present : s.flat.get? key with
  | none =>
    rw [result_resolveValue_of_none present, final_resolveValue_of_none present]
    exact h
  | some old =>
    obtain ⟨text, rfl⟩ | other := old.eq_str_or
    · have kept : Faithful setup flat (underway ++ [key])
          ((substituteAll setup enter (some key) text).final s) :=
        keeps_substituteAll Faithful.aside (oblivious.straight.forall_makes sound.keeps) (some key)
          text s h
      rw [result_resolveValue_of_str present] at valued ⊢
      cases done : (substituteAll setup enter (some key) text).result s with
      | error halt =>
        rw [final_resolveValue_of_error present done]
        exact kept
      | ok new =>
        rw [final_resolveValue_of_ok present done]
        have unchanged := kept.original.trans (h.original.symm.trans present)
        exact kept.settled fresh (settled_stored unchanged new) (valued _ (by rw [done]; rfl))
    · rw [result_resolveValue_of_ne_str present other] at valued ⊢
      rw [final_resolveValue_of_ne_str present other]
      exact h.settled fresh (settled_settledOn present) (valued old rfl)

/-- To enter a key that is not resolved keeps a session faithful and gives its value. -/
theorem faithful_enterKey {enter : Enter}
    (sound : IsSound setup flat (underway ++ [key]) enter) (fresh : key ∉ underway)
    (faithful : Faithful setup flat underway s) (unresolved : s.mark key ≠ .resolved) :
    Faithful setup flat underway ((enterKey setup enter key).final s) ∧
      ∀ value, (enterKey setup enter key).result s = .ok value → HasValue setup flat key value := by
  have entered := faithful.entering unresolved
  refine ⟨?_, fun value ok => hasValue_of_resolveValue oblivious sound entered entered.unresolved
    (result_enterKey ▸ ok)⟩
  have left := faithful_resolveValue oblivious sound fresh entered
  cases result : (resolveValue setup enter key).result (s.entering key) with
  | error halt =>
    rw [result] at left
    rw [final_enterKey_of_error result]
    exact left.gaveUpOn
  | ok value =>
    rw [result] at left
    rw [final_enterKey_of_ok result]
    have told : Keeps (Faithful setup flat underway) (noteWithheld setup key value) :=
      keeps_noteWithheld (fun h _ _ => h.noted _) setup key value
    exact told _ left

include loops

/-- One step keeps a session faithful and gives values when the deeper steps do. -/
theorem isSound_resolveStep {deeper : Trail → Enter}
    (deep : ∀ trail, IsSound setup flat trail.keys (deeper trail)) (trail : Trail) :
    IsSound setup flat trail.keys (answerStep setup deeper trail) := by
  intro key s faithful
  change Faithful setup flat trail.keys ((resolveStep setup deeper trail key).final s) ∧
    ∀ value, (resolveStep setup deeper trail key).result s = .ok value →
      HasValue setup flat key value
  by_cases resolved : s.mark key = .resolved
  · obtain ⟨value, present, known⟩ := faithful.resolved key resolved
    obtain ⟨result, final⟩ := resolveStep_of_resolved setup deeper trail resolved present
    rw [result, final]
    refine ⟨faithful, fun other same => ?_⟩
    rwa [← Except.ok.inj same]
  · cases pushed : trail.push key with
    | error failure =>
      obtain ⟨result, final⟩ := resolveStep_of_loop setup deeper resolved pushed
      obtain ⟨_, rfl⟩ := Trail.mem_of_push_eq_error pushed
      rw [result, final]
      refine ⟨keeps_recover Faithful.aside (oblivious.straight.forall_makes (deep trail).keeps) _ s
        faithful, ?_⟩
      intro value ok
      cases answer : (recover setup (deeper trail) (.circular key trail.keys)).result s with
      | error halt =>
        rw [answer] at ok
        cases ok
      | ok text => exact absurd answer (result_recover_loop oblivious.straight loops _ _ _ _)
    | ok longer =>
      obtain ⟨result, final⟩ := resolveStep_of_push setup deeper resolved pushed
      rw [result, final]
      exact faithful_enterKey oblivious (Trail.keys_of_push pushed ▸ deep longer)
        (Trail.not_mem_of_push pushed) faithful resolved

theorem isSound_resolveOn (flat : Flat) (room : Nat) (trail : Trail) :
    IsSound setup flat trail.keys (resolveOn setup room trail) := by
  induction room generalizing trail with
  | zero =>
    refine isSound_resolveStep oblivious loops (fun longer key s faithful => ?_) trail
    exact ⟨faithful, fun value ok => by cases ok⟩
  | succ room ih => exact isSound_resolveStep oblivious loops ih trail

/-- The resolution of a key keeps a session faithful and gives values. -/
theorem isSound_atRest (flat : Flat) : IsSound setup flat [] (atRest setup) :=
  fun key s faithful => isSound_resolveOn oblivious loops flat _ .empty key s faithful

end Sound

end Session

end ConfigTemplate
