import ConfigTemplate.Proofs.Session.Conclusion
import Mathlib

/-!
# The commands of the keys

Each key of a document has commands of its own: those that are run when its string is substituted
with the values of other keys at hand. However the keys of a document come to be resolved, each of
them is resolved once, and what is run for it are these commands. So the commands that were run and
those of the keys that are not resolved yet add up to the same at all times.
-/

namespace ConfigTemplate.Session

open ConfigTemplate.Action

variable {setup : Setup} {flat : Flat} {underway : List String} {key : String} {value : Json}
variable {cost : String → Multiset String} {depth : Nat} {s t : Session}

/-- The commands that were run in a session, in no order. -/
def spent (s : Session) : Multiset String := s.journal.commands

/-- The keys of a document that are not resolved. -/
def unresolved (flat : Flat) (s : Session) : Finset String :=
  flat.keys.toFinset.filter fun key => s.mark key ≠ .resolved

/-- The commands that were run and those of the keys that are not resolved. -/
def account (flat : Flat) (cost : String → Multiset String) (s : Session) : Multiset String :=
  s.spent + ∑ key ∈ unresolved flat s, cost key

/-- The commands of a key: those that are run for its string when other keys have the values that
they have with references followed to a depth. -/
def ownCommands (setup : Setup) (flat : Flat) (depth : Nat) (key : String) : Multiset String :=
  ((resolveValue setup (answering (valueWithin setup flat depth)) key).final (start flat)).spent

@[simp] theorem spent_start (flat : Flat) : (start flat).spent = 0 := rfl

theorem spent_noted (s : Session) (event : Event) :
    (s.noted event).spent = s.spent + event.command?.toList := by
  have commands : (s.noted event).journal.commands =
      s.journal.commands ++ event.command?.toList := by
    cases ran : event.command? <;> simp [noted, Journal.commands, ran]
  rw [spent, commands, ← Multiset.coe_add]
  rfl

theorem account_noted (s : Session) (event : Event) :
    account flat cost (s.noted event) = account flat cost s + event.command?.toList := by
  have same : unresolved flat (s.noted event) = unresolved flat s := rfl
  rw [account, account, spent_noted, same, add_right_comm]

/-- An event that runs no command changes no account. -/
theorem account_noted_of_none {event : Event} (none : event.command? = none) (s : Session) :
    account flat cost (s.noted event) = account flat cost s := by
  rw [account_noted, none]
  exact add_zero _

/-- A key that begins to be resolved is unresolved still. -/
theorem account_entering (unresolved : s.mark key ≠ .resolved) :
    account flat cost (s.entering key) = account flat cost s := by
  have same : Session.unresolved flat (s.marked key .inProgress) = Session.unresolved flat s := by
    have marks : SameMemory s (s.marked key .inProgress) := sameMemory_marked unresolved (by decide)
    ext other
    simp only [Session.unresolved, Finset.mem_filter, ne_eq, marks.resolved other]
  rw [entering, account_noted_of_none rfl, account, account, same]
  rfl

/-- With a key its commands go off the account. -/
theorem account_settledOn (mem : key ∈ flat) (unresolved : s.mark key ≠ .resolved) (value : Json) :
    account flat cost s = account flat cost (s.settledOn key value) + cost key := by
  have listed : key ∈ Session.unresolved flat s :=
    Finset.mem_filter.2 ⟨List.mem_toFinset.2 mem, unresolved⟩
  have fewer : Session.unresolved flat (s.marked key .resolved) =
      (Session.unresolved flat s).erase key := by
    ext other
    by_cases same : key = other
    · subst same
      simp [Session.unresolved]
    · simp [Session.unresolved, mark_marked_of_ne s same, Ne.symm same]
  rw [settledOn, account_noted_of_none rfl, account, account, fewer, add_assoc,
    Finset.sum_erase_add _ _ listed]
  rfl

/-- In faithful sessions with an account and what was spent beside it all work runs in lockstep. -/
theorem lockstep_account (oblivious : setup.IsOblivious) (flat : Flat)
    (underway : List String) (cost : String → Multiset String) (base : Multiset String) :
    Lockstep setup fun s t => (Faithful setup flat underway s ∧ Faithful setup flat [] t) ∧
      account flat cost s = base + t.spent where
  straight := oblivious.straight
  noted h event := by
    refine ⟨⟨h.1.1.noted event, h.1.2.noted event⟩, ?_⟩
    rw [account_noted, spent_noted, h.2, add_assoc]
  shape h := (lockstep_faithful oblivious flat underway []).shape h.1
  answers h := (lockstep_faithful oblivious flat underway []).answers h.1

/-- Whether a way to enter keys keeps the account of a document, as far as it gives values. -/
def KeepsAccount (setup : Setup) (flat : Flat) (cost : String → Multiset String)
    (underway : List String) (enter : Enter) : Prop :=
  ∀ key s, Faithful setup flat underway s → ∀ value, (enter key).result s = .ok value →
    account flat cost ((enter key).final s) = account flat cost s

section Oblivious

variable (oblivious : setup.IsOblivious)
variable (enough : ∀ key value, HasValue setup flat key value →
  valueWithin setup flat depth key = .ok value)

include oblivious enough

/-- When the value of a key was found, the commands of the key were run beside what is off the
account. -/
theorem account_resolveValue {enter : Enter}
    (sound : IsSound setup flat (underway ++ [key]) enter)
    (keeps : KeepsAccount setup flat cost (underway ++ [key]) enter)
    (faithful : Faithful setup flat (underway ++ [key]) s)
    (done : (resolveValue setup enter key).result s = .ok value) :
    ((resolveValue setup enter key).final s).mark key ≠ .resolved ∧
      account flat cost ((resolveValue setup enter key).final s) =
        account flat cost s + ownCommands setup flat depth key := by
  have enters : ∀ other, Agree True (fun s' t => (Faithful setup flat (underway ++ [key]) s' ∧
        Faithful setup flat [] t) ∧ account flat cost s' = account flat cost s + t.spent)
      (enter other) (answering (valueWithin setup flat depth) other) := by
    refine fun other => .of_ok fun s' t related found ok => ?_
    obtain ⟨⟨here, there⟩, same⟩ := related
    obtain ⟨kept, valued⟩ := sound other s' here
    rw [result_answering, final_answering, keeps other s' here found ok]
    exact ⟨enough other found (valued found ok), ⟨kept, there⟩, same⟩
  have begun : (Faithful setup flat (underway ++ [key]) s ∧
      Faithful setup flat [] (start flat)) ∧
      account flat cost s = account flat cost s + (start flat).spent :=
    ⟨⟨faithful, faithful_start setup flat⟩, (add_zero _).symm⟩
  have lockstep := lockstep_account oblivious flat (underway ++ [key]) cost (account flat cost s)
  have agree : AgreeAt True
      (fun s' t => s'.mark key ≠ .resolved ∧ account flat cost s' = account flat cost s + t.spent)
      (resolveValue setup enter key)
      (resolveValue setup (answering (valueWithin setup flat depth)) key) s (start flat) :=
    lockstep.parallel.resolveValue (lockstep.makes enters) begun faithful.original
      fun related => ⟨⟨related.1.1.unresolved, related.2⟩,
        fun _ => ⟨related.1.1.unresolved, related.2⟩⟩
  obtain ⟨_, halt, stopped⟩ | ⟨_, after⟩ := agree
  · rw [done] at stopped
    cases stopped
  · exact after

/-- A key that is entered with success leaves the account as it was. -/
theorem account_enterKey {enter : Enter}
    (sound : IsSound setup flat (underway ++ [key]) enter)
    (keeps : KeepsAccount setup flat (ownCommands setup flat depth) (underway ++ [key]) enter)
    (faithful : Faithful setup flat underway s) (unresolved : s.mark key ≠ .resolved)
    (done : (enterKey setup enter key).result s = .ok value) :
    account flat (ownCommands setup flat depth) ((enterKey setup enter key).final s) =
      account flat (ownCommands setup flat depth) s := by
  have entered := faithful.entering unresolved
  rw [result_enterKey] at done
  have mem := (hasValue_of_resolveValue oblivious sound entered entered.unresolved done).mem
  obtain ⟨before, paid⟩ := account_resolveValue oblivious enough sound keeps entered done
  rw [account_settledOn mem before value, account_entering unresolved] at paid
  have told : Keeps (fun t => account flat (ownCommands setup flat depth) t =
      account flat (ownCommands setup flat depth) s) (noteWithheld setup key value) :=
    keeps_noteWithheld (fun same _ _ => ((account_noted ..).trans (add_zero _)).trans same)
      setup key value
  rw [final_enterKey_of_ok done]
  exact told _ (add_right_cancel paid)

variable (loops : ¬ setup.registry.RecoversLoops)

include loops

/-- One step keeps the account when the deeper steps do. -/
theorem keepsAccount_resolveStep {deeper : Trail → Enter}
    (sound : ∀ trail, IsSound setup flat trail.keys (deeper trail))
    (deep : ∀ trail, KeepsAccount setup flat (ownCommands setup flat depth) trail.keys
      (deeper trail)) (trail : Trail) :
    KeepsAccount setup flat (ownCommands setup flat depth) trail.keys
      (answerStep setup deeper trail) := by
  intro key s faithful value done
  change (resolveStep setup deeper trail key).result s = .ok value at done
  change account flat (ownCommands setup flat depth)
      ((resolveStep setup deeper trail key).final s) =
    account flat (ownCommands setup flat depth) s
  by_cases resolved : s.mark key = .resolved
  · obtain ⟨value, present, _⟩ := faithful.resolved key resolved
    rw [(resolveStep_of_resolved setup deeper trail resolved present).2]
  · cases pushed : trail.push key with
    | error failure =>
      obtain ⟨_, rfl⟩ := Trail.mem_of_push_eq_error pushed
      rw [(resolveStep_of_loop setup deeper resolved pushed).1] at done
      cases answer : (recover setup (deeper trail) (.circular key trail.keys)).result s with
      | error halt =>
        rw [answer] at done
        cases done
      | ok text => exact absurd answer (result_recover_loop oblivious.straight loops _ _ _ _)
    | ok longer =>
      obtain ⟨result, final⟩ := resolveStep_of_push setup deeper resolved pushed
      have keys := Trail.keys_of_push pushed
      rw [final]
      exact account_enterKey oblivious enough (keys ▸ sound longer) (keys ▸ deep longer) faithful
        resolved (result.symm.trans done)

theorem keepsAccount_resolveOn (room : Nat) (trail : Trail) :
    KeepsAccount setup flat (ownCommands setup flat depth) trail.keys
      (resolveOn setup room trail) := by
  induction room generalizing trail with
  | zero =>
    refine keepsAccount_resolveStep oblivious enough loops ?_ ?_ trail
    · exact fun longer key s faithful => ⟨faithful, fun value ok => by cases ok⟩
    · exact fun longer key s faithful value ok => by cases ok
  | succ room ih =>
    exact keepsAccount_resolveStep oblivious enough loops
      (isSound_resolveOn oblivious loops flat room) ih trail

/-- Keys that are resolved one after the other with success leave the account as it was. -/
theorem account_resolveEach {keys : List String} (faithful : Faithful setup flat [] s)
    (done : (resolveEach (atRest setup) keys).result s = .ok ()) :
    account flat (ownCommands setup flat depth) ((resolveEach (atRest setup) keys).final s) =
      account flat (ownCommands setup flat depth) s := by
  induction keys generalizing s with
  | nil => rfl
  | cons key rest ih =>
    unfold resolveEach at done ⊢
    cases first : (atRest setup key).result s with
    | error halt =>
      rw [result_bind_of_error first] at done
      cases done
    | ok value =>
      rw [result_bind_of_ok first] at done
      rw [final_bind_of_ok first]
      have kept := (isSound_atRest oblivious loops flat key s faithful).1
      have same := keepsAccount_resolveOn oblivious enough loops _ .empty key s faithful value first
      exact (ih kept done).trans same

/-- Everything that is resolved with success leaves the account as it was. -/
theorem account_resolveAll (done : (resolveAll setup).result (start flat) = .ok ()) :
    account flat (ownCommands setup flat depth) ((resolveAll setup).final (start flat)) =
      account flat (ownCommands setup flat depth) (start flat) := by
  unfold resolveAll resolvePending at done ⊢
  rw [result_bind_of_ok (result_get _), final_get] at done
  rw [final_bind_of_ok (result_get _), final_get]
  dsimp only at done ⊢
  split at done
  next empty => rw [if_pos empty, final_note, account_noted_of_none rfl]
  next some =>
    rw [result_bind_of_ok (result_note ..)] at done
    rw [if_neg some, final_bind_of_ok (result_note ..)]
    have begun := (faithful_start setup flat).noted
      (.pendingFound (pending setup (start flat)).length)
    exact (account_resolveEach oblivious enough loops begun done).trans
      (account_noted_of_none rfl _)

end Oblivious

/-- A key without placeholders has no commands. -/
theorem ownCommands_of_not_mem_pending (settled : key ∉ pending setup (start flat)) (depth : Nat) :
    ownCommands setup flat depth key = 0 := by
  unfold ownCommands
  cases present : (start flat).flat.get? key with
  | none => rw [final_resolveValue_of_none present, spent_start]
  | some value =>
    obtain ⟨text, rfl⟩ | other := value.eq_str_or
    · have none := scan_eq_none_of_not_mem_pending (by simp) present settled
      have done : substituteAll setup (answering (valueWithin setup flat depth)) (some key) text =
          pure text := substitute_of_scan none (some key) _
      rw [final_resolveValue_of_ok present (by rw [done]; rfl), done]
      rfl
    · rw [final_resolveValue_of_ne_str present other, spent_start]

/-- When everything is resolved with success, the commands that are run are those of all keys. -/
theorem spent_final_resolveAll (oblivious : setup.IsOblivious)
    (loops : ¬ setup.registry.RecoversLoops)
    (enough : ∀ key value, HasValue setup flat key value →
      valueWithin setup flat depth key = .ok value)
    (done : (resolveAll setup).result (start flat) = .ok ()) :
    ((resolveAll setup).final (start flat)).spent =
      ∑ key ∈ flat.keys.toFinset, ownCommands setup flat depth key := by
  have same := account_resolveAll oblivious enough loops done
  have all : unresolved flat (start flat) = flat.keys.toFinset := by simp [unresolved]
  -- A key that is not resolved in the end was not pending and has no commands.
  have rest : ∑ key ∈ unresolved flat ((resolveAll setup).final (start flat)),
      ownCommands setup flat depth key = 0 := by
    refine Finset.sum_eq_zero fun key mem => ownCommands_of_not_mem_pending (fun listed => ?_) depth
    exact (Finset.mem_filter.1 mem).2 (mark_resolveAll done key listed)
  rwa [account, account, rest, add_zero, spent_start, zero_add, all] at same

end ConfigTemplate.Session
