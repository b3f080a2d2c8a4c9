import ConfigTemplate.Session.Resolve

/-!
# Runs of actions

A run of an action in a session has a result and leaves a session behind, also when it is stopped.
Both are read off the action step by step.
-/

namespace ConfigTemplate

namespace Action

variable {α β : Type}

/-- What an action gives in a session. -/
def result (action : Action α) (s : Session) : Except Halt α := (action.run s).1

/-- The session that an action leaves behind. -/
def final (action : Action α) (s : Session) : Session := (action.run s).2

variable (s : Session)

@[simp] theorem result_pure (x : α) : (pure x : Action α).result s = .ok x := rfl

@[simp] theorem final_pure (x : α) : (pure x : Action α).final s = s := rfl

@[simp] theorem result_get : (get : Action Session).result s = .ok s := rfl

@[simp] theorem final_get : (get : Action Session).final s = s := rfl

@[simp] theorem result_throw (halt : Halt) : (throw halt : Action α).result s = .error halt := rfl

@[simp] theorem final_throw (halt : Halt) : (throw halt : Action α).final s = s := rfl

@[simp] theorem result_fail (failure : Failure) :
    (fail failure : Action α).result s = .error (.failure failure) := rfl

@[simp] theorem final_fail (failure : Failure) : (fail failure : Action α).final s = s := rfl

@[simp] theorem result_breakOff (mishap : Mishap) :
    (breakOff mishap : Action α).result s = .error (.mishap mishap) := rfl

@[simp] theorem final_breakOff (mishap : Mishap) : (breakOff mishap : Action α).final s = s := rfl

@[simp] theorem result_note (event : Event) : (note event).result s = .ok () := rfl

@[simp] theorem final_note (event : Event) : (note event).final s = s.noted event := rfl

@[simp] theorem result_mark (key : String) (mark : Mark) :
    (Action.mark key mark).result s = .ok () := rfl

@[simp] theorem final_mark (key : String) (mark : Mark) :
    (Action.mark key mark).final s = s.marked key mark := rfl

@[simp] theorem result_attempt (action : Action α) :
    (attempt action).result s = .ok (action.result s) := rfl

@[simp] theorem final_attempt (action : Action α) : (attempt action).final s = action.final s := rfl

variable {s}

theorem result_bind_of_ok {action : Action α} {x : α} (h : action.result s = .ok x)
    (next : α → Action β) : (action >>= next).result s = (next x).result (action.final s) := by
  change (ExceptT.bindCont next (action.result s) (action.final s)).1 = _
  rw [h]
  rfl

theorem final_bind_of_ok {action : Action α} {x : α} (h : action.result s = .ok x)
    (next : α → Action β) : (action >>= next).final s = (next x).final (action.final s) := by
  change (ExceptT.bindCont next (action.result s) (action.final s)).2 = _
  rw [h]
  rfl

theorem result_bind_of_error {action : Action α} {halt : Halt} (h : action.result s = .error halt)
    (next : α → Action β) : (action >>= next).result s = .error halt := by
  change (ExceptT.bindCont next (action.result s) (action.final s)).1 = _
  rw [h]
  rfl

theorem final_bind_of_error {action : Action α} {halt : Halt} (h : action.result s = .error halt)
    (next : α → Action β) : (action >>= next).final s = action.final s := by
  change (ExceptT.bindCont next (action.result s) (action.final s)).2 = _
  rw [h]
  rfl

/-! ### What an action ensures -/

/-- Whether an action, begun in a session, gives a result and leaves a session as demanded, or else
is stopped by one of some halts. -/
def Ensures (stop : Halt → Prop) (post : α → Session → Prop) (action : Action α) (s : Session) :
    Prop :=
  match action.result s with
  | .ok x => post x (action.final s)
  | .error halt => stop halt

variable {stop : Halt → Prop} {post : α → Session → Prop}

theorem Ensures.of_ok {action : Action α} {x : α} (result : action.result s = .ok x)
    (h : post x (action.final s)) : Ensures stop post action s := by
  unfold Ensures
  rwa [result]

theorem Ensures.of_error {action : Action α} {halt : Halt} (result : action.result s = .error halt)
    (h : stop halt) : Ensures stop post action s := by
  unfold Ensures
  rwa [result]

theorem Ensures.ok {action : Action α} {x : α} (h : Ensures stop post action s)
    (result : action.result s = .ok x) : post x (action.final s) := by
  unfold Ensures at h
  rwa [result] at h

theorem Ensures.error {action : Action α} {halt : Halt} (h : Ensures stop post action s)
    (result : action.result s = .error halt) : stop halt := by
  unfold Ensures at h
  rwa [result] at h

theorem Ensures.bind {middle : α → Session → Prop} {post : β → Session → Prop} {action : Action α}
    {next : α → Action β} (first : Ensures stop middle action s)
    (rest : ∀ x t, middle x t → Ensures stop post (next x) t) :
    Ensures stop post (action >>= next) s := by
  cases result : action.result s with
  | error halt => exact .of_error (result_bind_of_error result next) (first.error result)
  | ok x =>
    have after := rest x _ (first.ok result)
    unfold Ensures at after ⊢
    rwa [result_bind_of_ok result, final_bind_of_ok result]

theorem Ensures.get_bind {next : Session → Action α} (h : Ensures stop post (next s) s) :
    Ensures stop post (get >>= next) s := h

theorem Ensures.note_bind {event : Event} {next : Unit → Action α}
    (h : Ensures stop post (next ()) (s.noted event)) :
    Ensures stop post (note event >>= next) s := h

/-- An attempt goes on with what came of it. -/
theorem Ensures.attempt_bind {stop' : Halt → Prop} {post' : β → Session → Prop}
    {action : Action α} {next : Except Halt α → Action β} (h : Ensures stop post action s)
    (success : ∀ x t, post x t → Ensures stop' post' (next (.ok x)) t)
    (failure : ∀ halt, stop halt → Ensures stop' post' (next (.error halt)) (action.final s)) :
    Ensures stop' post' (attempt action >>= next) s := by
  unfold Ensures
  rw [result_bind_of_ok (result_attempt s action), final_bind_of_ok (result_attempt s action)]
  cases result : action.result s with
  | error halt => exact failure halt (h.error result)
  | ok x => exact success x _ (h.ok result)

theorem Ensures.mono {weaker : α → Session → Prop} {action : Action α}
    (h : Ensures stop post action s) (weaken : ∀ x t, post x t → weaker x t) :
    Ensures stop weaker action s := by
  cases result : action.result s with
  | error halt => exact .of_error result (h.error result)
  | ok x => exact .of_ok result (weaken x _ (h.ok result))

end Action

/-- A value is a string or no string. -/
theorem Json.eq_str_or (value : Json) :
    (∃ text, value = .str text) ∨ ∀ text, value ≠ .str text := by
  cases value with
  | str text => exact .inl ⟨text, rfl⟩
  | _ => exact .inr fun text same => by cases same

namespace Session

open ConfigTemplate.Action

variable {setup : Setup} {enter : Enter} {key : String} {s : Session}

/-! ### Texts -/

/-- A text without placeholders is left as it is. -/
theorem substitute_of_scan {text : String} (clean : Placeholder.scan (kinds setup) text = none)
    (owner : Option String) (count : Nat) :
    substitute setup enter owner count text = pure text := by
  cases count <;> simp only [substitute, clean]

/-- A placeholder that is left when no more substitutions are allowed is a failure. -/
theorem substitute_zero {text : String} {p : Placeholder}
    (found : Placeholder.scan (kinds setup) text = some p) (owner : Option String) :
    substitute setup enter owner 0 text =
      Action.fail (.substitutionLimit (ownerOr text owner) setup.options.limit p.text) := by
  simp only [substitute, found]

/-! ### The value of a key -/

/-- A key of no value is no path. -/
theorem result_resolveValue_of_none (h : s.flat.get? key = none) :
    (resolveValue setup enter key).result s = .error (.mishap (.unknownPath key)) := by
  rw [resolveValue, result_bind_of_ok (result_get s), final_get]
  simp only [h, result_breakOff]

theorem final_resolveValue_of_none (h : s.flat.get? key = none) :
    (resolveValue setup enter key).final s = s := by
  rw [resolveValue, final_bind_of_ok (result_get s), final_get]
  simp only [h, final_breakOff]

/-- A value that is no string is as it is. -/
theorem result_resolveValue_of_ne_str {value : Json} (h : s.flat.get? key = some value)
    (other : ∀ text, value ≠ .str text) :
    (resolveValue setup enter key).result s = .ok value := by
  rw [resolveValue, result_bind_of_ok (result_get s), final_get]
  cases value with
  | str text => exact absurd rfl (other text)
  | _ => simp only [h, result_pure]

theorem final_resolveValue_of_ne_str {value : Json} (h : s.flat.get? key = some value)
    (other : ∀ text, value ≠ .str text) : (resolveValue setup enter key).final s = s := by
  rw [resolveValue, final_bind_of_ok (result_get s), final_get]
  cases value with
  | str text => exact absurd rfl (other text)
  | _ => simp only [h, final_pure]

/-- A string has its placeholders substituted. -/
theorem result_resolveValue_of_str {text : String} (h : s.flat.get? key = some (.str text)) :
    (resolveValue setup enter key).result s =
      ((substituteAll setup enter (some key) text).result s).map .str := by
  rw [resolveValue, result_bind_of_ok (result_get s), final_get]
  simp only [h]
  cases done : (substituteAll setup enter (some key) text).result s with
  | error halt => exact result_bind_of_error done _
  | ok new => exact result_bind_of_ok done _

/-- A string with its placeholders substituted is stored. -/
theorem final_resolveValue_of_ok {text new : String} (h : s.flat.get? key = some (.str text))
    (done : (substituteAll setup enter (some key) text).result s = .ok new) :
    (resolveValue setup enter key).final s =
      ((substituteAll setup enter (some key) text).final s).stored key (.str new) := by
  rw [resolveValue, final_bind_of_ok (result_get s), final_get]
  simp only [h]
  exact final_bind_of_ok done _

theorem final_resolveValue_of_error {text : String} {halt : Halt}
    (h : s.flat.get? key = some (.str text))
    (stopped : (substituteAll setup enter (some key) text).result s = .error halt) :
    (resolveValue setup enter key).final s =
      (substituteAll setup enter (some key) text).final s := by
  rw [resolveValue, final_bind_of_ok (result_get s), final_get]
  simp only [h]
  exact final_bind_of_error stopped _

/-! ### Entering a key -/

/-- A session in which a key begins to be resolved. -/
def entering (s : Session) (key : String) : Session :=
  (s.marked key .inProgress).noted (.entered key)

/-- A session after the resolution of a key has failed. -/
def gaveUpOn (s : Session) (key : String) : Session := (s.marked key .failed).noted (.failed key)

/-- A session after a key was resolved. -/
def settledOn (s : Session) (key : String) (value : Json) : Session :=
  (s.marked key .resolved).noted (.settled key value)

private theorem result_forM_note (key : String) (ps : List Placeholder) :
    ∀ s : Session, (ps.forM fun p => note (.withheld key p.text)).result s = .ok () := by
  induction ps with
  | nil => exact fun s => rfl
  | cons p ps ih => exact fun s => ih (s.noted (.withheld key p.text))

/-- The placeholders that a value keeps are only noted. -/
theorem result_noteWithheld (setup : Setup) (key : String) (value : Json) (s : Session) :
    (noteWithheld setup key value).result s = .ok () := by
  unfold noteWithheld
  split
  · split
    · rfl
    · exact result_forM_note key _ s
  · rfl

/-- To enter a key gives what its value resolves to. -/
theorem result_enterKey :
    (enterKey setup enter key).result s =
      (resolveValue setup enter key).result (s.entering key) := by
  rw [enterKey, result_bind_of_ok (result_mark ..), result_bind_of_ok (result_note ..),
    result_bind_of_ok (result_attempt ..), final_note, final_mark, final_attempt, entering]
  cases (resolveValue setup enter key).result ((s.marked key .inProgress).noted (.entered key)) with
  | error halt => rfl
  | ok value =>
    dsimp only
    rw [result_bind_of_ok (result_mark ..), result_bind_of_ok (result_note ..),
      result_bind_of_ok (result_noteWithheld ..), result_pure]

theorem final_enterKey_of_error {halt : Halt}
    (h : (resolveValue setup enter key).result (s.entering key) = .error halt) :
    (enterKey setup enter key).final s =
      ((resolveValue setup enter key).final (s.entering key)).gaveUpOn key := by
  rw [enterKey, final_bind_of_ok (result_mark ..), final_bind_of_ok (result_note ..),
    final_bind_of_ok (result_attempt ..), final_note, final_mark, final_attempt]
  rw [entering] at h ⊢
  rw [h]
  rfl

theorem final_enterKey_of_ok {value : Json}
    (h : (resolveValue setup enter key).result (s.entering key) = .ok value) :
    (enterKey setup enter key).final s = (noteWithheld setup key value).final
      (((resolveValue setup enter key).final (s.entering key)).settledOn key value) := by
  rw [enterKey, final_bind_of_ok (result_mark ..), final_bind_of_ok (result_note ..),
    final_bind_of_ok (result_attempt ..), final_note, final_mark, final_attempt]
  rw [entering] at h ⊢
  rw [h]
  dsimp only
  rw [final_bind_of_ok (result_mark ..), final_bind_of_ok (result_note ..),
    final_bind_of_ok (result_noteWithheld ..), final_pure]
  rfl

/-! ### A key on its way -/

variable (setup) (deeper : Trail → Enter) {trail longer : Trail}

/-- A key that was resolved keeps its value. -/
theorem resolveStep_of_resolved (trail : Trail) {value : Json} (h : s.mark key = .resolved)
    (present : s.flat.get? key = some value) :
    (resolveStep setup deeper trail key).result s = .ok value ∧
      (resolveStep setup deeper trail key).final s = s := by
  rw [resolveStep, result_bind_of_ok (result_get s), final_bind_of_ok (result_get s), final_get,
    if_pos h]
  simp only [present, result_pure, final_pure, and_self]

/-- A key on the trail closes a loop. -/
theorem resolveStep_of_loop {failure : Failure} (h : s.mark key ≠ .resolved)
    (loop : trail.push key = .error failure) :
    (resolveStep setup deeper trail key).result s =
        ((recover setup (deeper trail) failure).result s).map .str ∧
      (resolveStep setup deeper trail key).final s =
        (recover setup (deeper trail) failure).final s := by
  rw [resolveStep, result_bind_of_ok (result_get s), final_bind_of_ok (result_get s), final_get,
    if_neg h]
  simp only [loop]
  cases answer : (recover setup (deeper trail) failure).result s with
  | error halt => exact ⟨result_bind_of_error answer _, final_bind_of_error answer _⟩
  | ok text => exact ⟨result_bind_of_ok answer _, final_bind_of_ok answer _⟩

/-- A key off the trail is entered. -/
theorem resolveStep_of_push (h : s.mark key ≠ .resolved) (push : trail.push key = .ok longer) :
    (resolveStep setup deeper trail key).result s =
        (enterKey setup (deeper longer) key).result s ∧
      (resolveStep setup deeper trail key).final s =
        (enterKey setup (deeper longer) key).final s := by
  rw [resolveStep, result_bind_of_ok (result_get s), final_bind_of_ok (result_get s), final_get,
    if_neg h]
  simp only [push, and_self]

/-- How calls are answered on a trail is one step, and the deeper steps have room for one key
less. -/
theorem exists_deeper (room : Nat) :
    ∃ deeper, resolveOn setup room = answerStep setup deeper ∧
      ∀ less, room = less + 1 → deeper = resolveOn setup less := by
  cases room with
  | zero => exact ⟨_, rfl, fun less h => by cases h⟩
  | succ room => exact ⟨_, rfl, fun less h => by rw [Nat.succ.inj h]⟩

end Session

/-! ### Prompt and straight replies -/

/-- Whether a reply is made without a look at the session and without a call on it. -/
def Reply.IsPrompt : Reply → Prop
  | .answer _ | .stop _ => True
  | _ => False

theorem Reply.IsPrompt.eq_answer_or {reply : Reply} (h : reply.IsPrompt) :
    (∃ text, reply = .answer text) ∨ ∃ halt, reply = .stop halt := by
  cases reply with
  | answer text => exact .inl ⟨text, rfl⟩
  | stop halt => exact .inr ⟨halt, rfl⟩
  | _ => exact h.elim

/-- Whether a reply is made without a look at the session and without a call on it other than to
resolve keys, and stops where the resolution of a key is stopped. -/
def Reply.IsStraight : Reply → Prop
  | .answer _ | .stop _ => True
  | .ask (.resolveKey _) next => ∀ value, (next value).IsStraight
  | _ => False

theorem Reply.IsPrompt.isStraight {reply : Reply} (h : reply.IsPrompt) : reply.IsStraight := by
  obtain ⟨text, rfl⟩ | ⟨halt, rfl⟩ := h.eq_answer_or <;> trivial

/-- Whether a reply stops where a call that it makes is stopped. -/
def Reply.IsUnguarded : Reply → Prop
  | .answer _ | .stop _ => True
  | .look next => ∀ s, (next s).IsUnguarded
  | .ask _ next => ∀ value, (next value).IsUnguarded
  | .attempt .. => False

theorem Reply.IsPrompt.isUnguarded {reply : Reply} (h : reply.IsPrompt) : reply.IsUnguarded := by
  obtain ⟨text, rfl⟩ | ⟨halt, rfl⟩ := h.eq_answer_or <;> trivial

namespace Registry

/-- Whether the handlers of a registry reply to a failure in the light of the failure alone. -/
def IsPrompt (registry : Registry) : Prop :=
  ∀ kind respond, registry.get? kind = some (.reply respond) → ∀ failure, (respond failure).IsPrompt

/-- Whether the handlers of a registry do no more on the session than the elements of an array are
joined by: they may resolve keys, and stop with them. A loop is replied to at once. -/
structure IsStraight (registry : Registry) : Prop where
  replies : ∀ kind respond, registry.get? kind = some (.reply respond) →
    ∀ failure, (respond failure).IsStraight
  loops : ∀ respond, registry.get? .circularDependency = some (.reply respond) →
    ∀ failure, (respond failure).IsPrompt

/-- Whether the handlers of a registry stop where a call that they make is stopped. -/
def IsUnguarded (registry : Registry) : Prop :=
  ∀ kind respond, registry.get? kind = some (.reply respond) →
    ∀ failure, (respond failure).IsUnguarded

theorem IsPrompt.isUnguarded {registry : Registry} (prompt : registry.IsPrompt) :
    registry.IsUnguarded :=
  fun kind respond registered failure => (prompt kind respond registered failure).isUnguarded

theorem IsPrompt.isStraight {registry : Registry} (prompt : registry.IsPrompt) :
    registry.IsStraight where
  replies kind respond registered failure := (prompt kind respond registered failure).isStraight
  loops := prompt .circularDependency

/-- The usual handlers have no answers of their own. -/
theorem get?_standard_ne_reply (kind : Failure.Kind) (respond : Failure → Reply) :
    standard.get? kind ≠ some (.reply respond) := by
  cases kind <;> intro registered <;> cases registered

theorem isPrompt_standard : standard.IsPrompt :=
  fun kind respond registered => absurd registered (get?_standard_ne_reply kind respond)

theorem isStraight_standard : standard.IsStraight := isPrompt_standard.isStraight

/-- Whether handlers of a registry may make a call. Elements of arrays are resolved with any
handlers; all other calls are made by replies that are not straight. -/
def Makes (registry : Registry) : Session.Call → Prop
  | .resolveKey _ => True
  | _ => ¬ registry.IsStraight

/-- What holds of the resolution of keys holds of all calls that straight handlers make. -/
theorem IsStraight.forall_makes {registry : Registry} (straight : registry.IsStraight)
    {P : Session.Call → Prop} (keys : ∀ key, P (.resolveKey key)) :
    ∀ call, registry.Makes call → P call := by
  intro call makes
  cases call with
  | resolveKey key => exact keys key
  | _ => exact absurd straight makes

end Registry

end ConfigTemplate
