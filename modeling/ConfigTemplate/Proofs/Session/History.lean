import ConfigTemplate.Proofs.Entries
import ConfigTemplate.Proofs.Session.Faithful
import Mathlib

/-!
# Independence of history

What a key is resolved to does not depend on what was resolved before. Two faithful sessions give
the same result for a key, be it a value or a failure: a key that has a value gives it in both, and
a key that has none is not resolved in either and is entered on the same trail. Whatever a session
was used for, it is faithful to the document that it began with.
-/

namespace ConfigTemplate

namespace Session

open ConfigTemplate.Action

variable {setup : Setup} {flat : Flat} {trail : Trail} {key : String} {value : Json} {room : Nat}
variable {s t : Session}

section Same

variable (oblivious : setup.IsOblivious) (loops : ¬ setup.registry.RecoversLoops)

include oblivious

include loops

/-- A key that has a value within a depth is resolved to it in a faithful session, on a trail of
keys that have none within that depth. -/
theorem result_resolveOn_of_valueWithin {depth : Nat} (fits : trail.Fits flat room)
    (faithful : Faithful setup flat trail.keys s)
    (unvalued : ∀ other ∈ trail.keys, ∀ w, valueWithin setup flat depth other ≠ .ok w)
    (h : valueWithin setup flat depth key = .ok value) :
    (resolveOn setup room trail key).result s = .ok value := by
  induction depth generalizing room trail key value s with
  | zero => cases h
  | succ depth ih =>
    have shallower : ∀ other ∈ trail.keys, ∀ w, valueWithin setup flat depth other ≠ .ok w :=
      fun other mem w found => unvalued other mem w (valueWithin_succ oblivious found)
    by_cases sooner : ∃ w, valueWithin setup flat depth key = .ok w
    · obtain ⟨w, found⟩ := sooner
      have same := (valueWithin_succ oblivious found).symm.trans h
      rw [← Except.ok.inj same]
      exact ih fits faithful shallower found
    -- No key of the longer trail has a value within the lesser depth, so the induction goes on.
    · obtain ⟨longer, pushed⟩ := Trail.exists_push fun mem => unvalued key mem value h
      obtain ⟨less, rfl, deeperFits⟩ := fits.push pushed (HasValue.mem ⟨_, h⟩)
      have none : ∀ other ∈ longer.keys, ∀ w, valueWithin setup flat depth other ≠ .ok w :=
        Trail.forall_mem_of_push pushed shallower fun w found => sooner ⟨w, found⟩
      change (resolveStep setup (resolveOn setup less) trail key).result s = .ok value
      by_cases resolved : s.mark key = .resolved
      · obtain ⟨old, present, known⟩ := faithful.resolved key resolved
        rw [(resolveStep_of_resolved setup _ trail resolved present).1,
          known.unique oblivious ⟨_, h⟩]
      · have sound := isSound_resolveOn oblivious loops flat less longer
        rw [Trail.keys_of_push pushed] at sound
        rw [(resolveStep_of_push setup _ resolved pushed).1]
        refine result_enterKey_of_answering oblivious sound (fun other w found t left => ?_)
          faithful resolved h
        rw [← Trail.keys_of_push pushed] at left
        exact ih deeperFits left none found

/-- A key that has a value is resolved to it in a faithful session, on a trail of keys that have
none. -/
theorem result_resolveOn_of_hasValue (fits : trail.Fits flat room)
    (faithful : Faithful setup flat trail.keys s)
    (unvalued : ∀ other ∈ trail.keys, ∀ w, ¬ HasValue setup flat other w)
    (h : HasValue setup flat key value) :
    (resolveOn setup room trail key).result s = .ok value := by
  obtain ⟨depth, found⟩ := h
  exact result_resolveOn_of_valueWithin oblivious loops fits faithful
    (fun other mem w within => unvalued other mem w ⟨depth, within⟩) found

/-- In a faithful session a key is resolved to a value exactly if that is its value. -/
theorem result_resolveKey_eq_ok_iff (faithful : Faithful setup flat [] s) :
    (resolveKey setup key).result s = .ok value ↔ HasValue setup flat key value := by
  constructor
  · exact (isSound_atRest oblivious loops flat key s faithful).2 value
  · intro known
    have fits : Trail.empty.Fits flat (s.flat.size + setup.registry.depth) :=
      Trail.fits_empty (Flat.size_eq_of_shape faithful.shape ▸ Nat.le_add_right ..)
    exact result_resolveOn_of_hasValue oblivious loops fits faithful (by simp) known

end Same

/-- The session that a call leaves behind, whether it succeeds or not. -/
def Call.final (setup : Setup) (call : Call) (s : Session) : Session :=
  match call with
  | .resolveKey key => (Session.resolveKey setup key).final s
  | .lookup expression => (Session.lookup setup expression).final s
  | .expand text => (Session.expand setup text).final s
  | .resolveAll => (Session.resolveAll setup).final s

/-- A session after some calls, one after the other. -/
def after (setup : Setup) (calls : List Call) (s : Session) : Session :=
  calls.foldl (fun s call => call.final setup s) s

/-- A call keeps a session faithful. -/
theorem faithful_final (oblivious : setup.IsOblivious)
    (loops : ¬ setup.registry.RecoversLoops) (call : Call) (h : Faithful setup flat [] s) :
    Faithful setup flat [] (call.final setup s) := by
  have keeps := (isSound_atRest oblivious loops flat).keeps
  have calls : ∀ call, setup.registry.Makes call →
      Keeps (Faithful setup flat []) ((atRest setup).answer call) :=
    oblivious.straight.forall_makes keeps
  cases call with
  | resolveKey key => exact keeps key s h
  | lookup expression => exact keeps_follow Faithful.aside calls expression s h
  | expand text => exact keeps_substituteAll Faithful.aside calls none text s h
  | resolveAll => exact keeps_resolvePending keeps Faithful.aside s h

end Session

/-- A handler of missing keys that resolves the key after the first character of an expression, and
that goes on where there is no value. -/
def Handler.trying : Handler :=
  .reply fun
    | .keyNotFound expression _ =>
      .attempt (.resolveKey (String.ofList (expression.toList.drop 1))) fun
        | .ok _ => .answer "kept"
        | .error _ => .answer "gone"
    | failure => .stop (.failure failure)

end ConfigTemplate
