import ConfigTemplate.Proofs.Session.Agreement

/-!
# The values of keys

A key of a flat document has a value of its own, whatever was resolved before: the value that comes
out when references are followed to a sufficient depth, without a trail and without a memory. A key
that closes a loop has none, and neither has a key whose resolution fails.

This needs a host that answers a command in the same way whatever was run before, and handlers that
reply to a failure in the same way whatever was done before: that see nothing of the session but the
values of keys, and stop where a key has none.
-/

namespace ConfigTemplate

/-- Whether a host answers a command in the same way after any commands. -/
def Host.IsOblivious (host : Host) : Prop :=
  ∀ before command, host.run before command = host.run [] command

/-- Whether neither commands nor handlers are answered in the light of what was done before. -/
structure Setup.IsOblivious (setup : Setup) : Prop where
  host : setup.host.IsOblivious
  straight : setup.registry.IsStraight

namespace Session

open ConfigTemplate.Action

/-- How keys are entered when their results are known. Nothing else is answered. -/
def answering (known : String → Except Halt Json) : Enter where
  answer
    | .resolveKey key =>
      match known key with
      | .ok value => pure value
      | .error halt => throw halt
    | _ => breakOff .tooDeep

@[simp] theorem result_answering (known : String → Except Halt Json) (key : String) (s : Session) :
    (answering known key).result s = known key := by
  unfold Enter.value answering
  dsimp only
  split <;> simp [*]

@[simp] theorem final_answering (known : String → Except Halt Json) (key : String) (s : Session) :
    (answering known key).final s = s := by
  unfold Enter.value answering
  dsimp only
  split <;> simp

/-- The value of a key, with references followed to a depth. -/
def valueWithin (setup : Setup) (flat : Flat) : Nat → String → Except Halt Json
  | 0, key => .error (.mishap (.unknownPath key))
  | depth + 1, key =>
    (resolveValue setup (answering (valueWithin setup flat depth)) key).result (start flat)

/-- Whether a key has a value, with references followed to some depth. -/
def HasValue (setup : Setup) (flat : Flat) (key : String) (value : Json) : Prop :=
  ∃ depth, valueWithin setup flat depth key = .ok value

variable {setup : Setup} {flat : Flat} {key : String} {value : Json}

/-- Sessions with documents of the same shape run in lockstep in an oblivious setup. -/
theorem lockstep_shape (oblivious : setup.IsOblivious) :
    Lockstep setup fun s t => s.flat.shape = t.flat.shape where
  straight := oblivious.straight
  noted h _ := h
  shape h := h
  answers _ command := (oblivious.host _ command).trans (oblivious.host _ command).symm

theorem agree_answering {R : Session → Session → Prop} {known others : String → Except Halt Json}
    (more : ∀ value, known key = .ok value → others key = .ok value) :
    Agree True R (answering known key) (answering others key) := by
  refine .of_ok fun s t related value ok => ?_
  rw [result_answering] at ok
  rw [result_answering, final_answering, final_answering]
  exact ⟨more value ok, related⟩

/-- A value found within a depth is found within the next one. -/
theorem valueWithin_succ (oblivious : setup.IsOblivious) {depth : Nat}
    (h : valueWithin setup flat depth key = .ok value) :
    valueWithin setup flat (depth + 1) key = .ok value := by
  induction depth generalizing key value with
  | zero => cases h
  | succ depth ih =>
    have enters : ∀ other, Agree True (fun s t => s.flat.shape = t.flat.shape)
        (answering (valueWithin setup flat depth) other)
        (answering (valueWithin setup flat (depth + 1)) other) :=
      fun other => agree_answering fun value found => ih found
    exact ((lockstep_shape oblivious).resolveValue enters rfl rfl).result_ok h

theorem valueWithin_mono (oblivious : setup.IsOblivious) {depth deeper : Nat}
    (le : depth ≤ deeper) (h : valueWithin setup flat depth key = .ok value) :
    valueWithin setup flat deeper key = .ok value := by
  induction le with
  | refl => exact h
  | step _ ih => exact valueWithin_succ oblivious ih

/-- A key has at most one value. -/
theorem HasValue.unique (oblivious : setup.IsOblivious) {other : Json}
    (h : HasValue setup flat key value) (h' : HasValue setup flat key other) : value = other := by
  obtain ⟨m, hm⟩ := h
  obtain ⟨n, hn⟩ := h'
  have atMax := valueWithin_mono oblivious (Nat.le_max_left m n) hm
  rw [valueWithin_mono oblivious (Nat.le_max_right m n) hn] at atMax
  exact (Except.ok.inj atMax).symm

/-- Only a key of the document has a value. -/
theorem valueWithin_of_get?_none (h : flat.get? key = none) (depth : Nat) :
    valueWithin setup flat depth key = .error (.mishap (.unknownPath key)) := by
  cases depth with
  | zero => rfl
  | succ depth =>
    have absent : (start flat).flat.get? key = none := h
    exact result_resolveValue_of_none absent

theorem HasValue.mem (h : HasValue setup flat key value) : key ∈ flat := by
  obtain ⟨depth, found⟩ := h
  cases present : flat.get? key with
  | none =>
    rw [valueWithin_of_get?_none present] at found
    cases found
  | some old => exact Flat.mem_of_get? present

/-- Some depth is enough for all keys. -/
theorem exists_depth (oblivious : setup.IsOblivious) (flat : Flat) :
    ∃ depth, ∀ key value, HasValue setup flat key value →
      valueWithin setup flat depth key = .ok value := by
  have among : ∀ keys : List String, ∃ depth, ∀ key ∈ keys, ∀ value,
      HasValue setup flat key value → valueWithin setup flat depth key = .ok value := by
    intro keys
    induction keys with
    | nil => exact ⟨0, by simp⟩
    | cons key rest ih =>
      obtain ⟨depth, enough⟩ := ih
      obtain ⟨own, found⟩ : ∃ own, ∀ value, HasValue setup flat key value →
          valueWithin setup flat own key = .ok value := by
        by_cases valued : ∃ value, HasValue setup flat key value
        · obtain ⟨value, own, found⟩ := valued
          refine ⟨own, fun other h => ?_⟩
          rw [found, HasValue.unique oblivious ⟨own, found⟩ h]
        · exact ⟨0, fun value h => absurd ⟨value, h⟩ valued⟩
      refine ⟨max own depth, fun other mem value h => ?_⟩
      obtain rfl | later := List.mem_cons.1 mem
      · exact valueWithin_mono oblivious (Nat.le_max_left ..) (found value h)
      · exact valueWithin_mono oblivious (Nat.le_max_right ..) (enough other later value h)
  obtain ⟨depth, enough⟩ := among flat.keys
  exact ⟨depth, fun key value h => enough key h.mem value h⟩

end Session

end ConfigTemplate
