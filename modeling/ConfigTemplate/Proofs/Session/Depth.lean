import ConfigTemplate.Proofs.Session.Invariant
import ConfigTemplate.Proofs.Session.Trail

/-!
# The depth of a resolution

The resolution of a key leads to other keys, of them to others, and so on, but never deeper than the
document has keys: what the resolution does beyond that depth makes no difference. In this sense the
resolution of every key ends, and the number that `resolveOn` counts down decides nothing. Handlers
that make other calls than to resolve keys may lead deeper, so this is shown of straight ones.
-/

namespace ConfigTemplate.Session

open ConfigTemplate.Action

variable {α : Type} {setup : Setup} {keys : List String} {flat : Flat} {key : String}
variable {trail : Trail} {room : Nat}

/-- The resolution of keys, unrolled down to a depth. What happens beyond it is left open. -/
def unrolled (setup : Setup) (beyond : Trail → Enter) : Nat → Trail → Enter
  | 0 => beyond
  | depth + 1 => answerStep setup (unrolled setup beyond depth)

/-- Whether two sessions are the same and have certain keys. -/
def SameOver (keys : List String) (s t : Session) : Prop := s = t ∧ s.flat.keys = keys

theorem lockstep_sameOver (straight : setup.registry.IsStraight) (keys : List String) :
    Lockstep setup (SameOver keys) :=
  .diagonal straight fun holds _ => holds

theorem agree_mark (keys : List String) (key : String) (mark : Mark) :
    Agree False (SameOver keys) (Action.mark key mark) (Action.mark key mark) := by
  rintro s _ ⟨rfl, same⟩
  exact .of_eq rfl ⟨rfl, same⟩

theorem agree_noteWithheld (keys : List String) (key : String) (value : Json) :
    Agree False (SameOver keys) (noteWithheld setup key value) (noteWithheld setup key value) :=
  keeps_iff_agree.1 (keeps_noteWithheld (fun holds _ _ => holds) setup key value)

section Straight

variable (straight : setup.registry.IsStraight)

include straight

section Enter

variable {enter₁ enter₂ : Enter}

/-- What is made of a loop depends on no other key. -/
theorem recover_loop_eq (enter₁ enter₂ : Enter) (trail : List String) :
    recover setup enter₁ (.circular key trail) = recover setup enter₂ (.circular key trail) := by
  unfold recover
  split
  next handler registered =>
    cases handler with
    | reply respond =>
      simp only [applyHandler]
      obtain ⟨text, given⟩ | ⟨halt, given⟩ :=
        (straight.loops respond registered (.circular key trail)).eq_answer_or <;>
      rw [given] <;> rfl
    | _ => rfl
  · rfl

/-- The value of a key of the document is resolved alike when other keys are, and that of any other
key without them. -/
theorem agree_resolveValue
    (enters : key ∈ keys → ∀ other, Agree False (SameOver keys) (enter₁ other) (enter₂ other)) :
    Agree False (SameOver keys) (resolveValue setup enter₁ key)
      (resolveValue setup enter₂ key) := by
  unfold resolveValue
  refine .get_bind ?_
  rintro s _ ⟨rfl, same⟩
  split
  · exact Agree.breakOff _ s s ⟨rfl, same⟩
  next text present =>
    have mem : key ∈ keys := same ▸ Flat.mem_of_get? present
    have lockstep := lockstep_sameOver straight keys
    have substituted : Agree False (SameOver keys) (substituteAll setup enter₁ (some key) text)
        (substituteAll setup enter₂ (some key) text) :=
      lockstep.parallel.substituteAll (lockstep.makes (enters mem)) (some key) text
    refine substituted.bind (fun new => ?_) s s ⟨rfl, same⟩
    refine Agree.bind ?_ fun _ => .pure _
    rintro t _ ⟨rfl, sameKeys⟩
    have present : key ∈ t.flat.keys := sameKeys ▸ mem
    exact .of_eq rfl ⟨rfl, (Flat.keys_put_of_mem present _).trans sameKeys⟩
  · exact Agree.pure _ s s ⟨rfl, same⟩

theorem agree_enterKey
    (enters : key ∈ keys → ∀ other, Agree False (SameOver keys) (enter₁ other) (enter₂ other)) :
    Agree False (SameOver keys) (enterKey setup enter₁ key) (enterKey setup enter₂ key) := by
  have noted (event : Event) : Agree False (SameOver keys) (note event) (note event) :=
    (lockstep_sameOver straight keys).note event
  unfold enterKey
  refine (agree_mark keys key _).bind fun _ => (noted _).bind fun _ => ?_
  refine ((agree_resolveValue straight enters).attempt id).bind fun outcome => ?_
  split
  · exact (agree_mark keys key _).bind fun _ => (noted _).bind fun _ => .throw _
  · refine (agree_mark keys key _).bind fun _ => (noted _).bind fun _ => ?_
    exact (agree_noteWithheld keys key _).bind fun _ => .pure _

end Enter

/-- One step agrees with another one when the deeper steps agree for the keys of the document. -/
theorem agree_resolveStep {deeper₁ deeper₂ : Trail → Enter}
    (deep : ∀ longer, trail.push key = .ok longer → key ∈ keys → ∀ other,
      Agree False (SameOver keys) (deeper₁ longer other) (deeper₂ longer other)) :
    Agree False (SameOver keys) (answerStep setup deeper₁ trail key)
      (answerStep setup deeper₂ trail key) := by
  change Agree False (SameOver keys) (resolveStep setup deeper₁ trail key)
    (resolveStep setup deeper₂ trail key)
  unfold resolveStep
  refine .get_bind ?_
  rintro s _ ⟨rfl, same⟩
  split
  · split
    · exact Agree.pure _ s s ⟨rfl, same⟩
    · exact Agree.breakOff _ s s ⟨rfl, same⟩
  · cases pushed : trail.push key with
    | error failure =>
      obtain ⟨_, rfl⟩ := Trail.mem_of_push_eq_error pushed
      -- No key is entered on account of a loop, so this way stands for both.
      have answer : Agree False (SameOver keys)
          (recover setup exhausted (.circular key trail.keys))
          (recover setup exhausted (.circular key trail.keys)) :=
        (lockstep_sameOver straight keys).parallel.recover (fun _ _ => .breakOff _) _
      dsimp only
      rw [recover_loop_eq straight (deeper₁ trail) exhausted,
        recover_loop_eq straight (deeper₂ trail) exhausted]
      exact (answer.bind fun _ => .pure _) s s ⟨rfl, same⟩
    | ok longer => exact agree_enterKey straight (deep longer pushed) s s ⟨rfl, same⟩

/-- What the resolution does beyond its depth makes no difference on a trail that fits the depth. -/
theorem agree_unrolled (beyond : Trail → Enter) {depth : Nat} (fits : trail.Fits flat depth)
    (enough : depth ≤ room) (key : String) :
    Agree False (SameOver flat.keys) (unrolled setup beyond (depth + 1) trail key)
      (resolveOn setup room trail key) := by
  induction depth generalizing room trail key with
  | zero =>
    obtain ⟨deeper, step, below⟩ := exists_deeper setup room
    rw [step, unrolled]
    refine agree_resolveStep straight fun longer pushed mem other => ?_
    obtain ⟨less, none, -⟩ := fits.push pushed mem
    cases none
  | succ depth ih =>
    obtain ⟨room, rfl⟩ : ∃ less, room = less + 1 := Nat.exists_eq_add_one.2 (by omega)
    rw [unrolled]
    refine agree_resolveStep straight fun longer pushed mem other => ?_
    obtain ⟨less, same, deeperFits⟩ := fits.push pushed mem
    obtain rfl := Nat.succ.inj same
    exact ih deeperFits (by omega) other

end Straight

/-- Actions that look at the session first are the same when they do the same with what they see. -/
theorem get_bind_congr {f g : Session → Action α}
    (h : ∀ s, (f s).result s = (g s).result s ∧ (f s).final s = (g s).final s) :
    (get >>= f) = (get >>= g) :=
  ExceptT.ext (StateT.ext fun s => Prod.ext (h s).1 (h s).2)

/-- The resolution of a key, unrolled one level deeper than a document has keys. -/
def unrolledKey (setup : Setup) (beyond : Trail → Enter) (key : String) : Action Json := do
  unrolled setup beyond ((← get).flat.size + 1) .empty key

/-- The resolution of a key never gets deeper than the document has keys. -/
theorem unrolledKey_eq_resolveKey (straight : setup.registry.IsStraight) (beyond : Trail → Enter) :
    unrolledKey setup beyond = resolveKey setup := by
  funext key
  refine get_bind_congr fun s => ?_
  have agree := agree_unrolled straight beyond (Trail.fits_empty le_rfl)
    (Nat.le_add_right s.flat.size setup.registry.depth) key s s ⟨rfl, rfl⟩
  exact ⟨agree.result_eq, agree.related.1⟩

end ConfigTemplate.Session
