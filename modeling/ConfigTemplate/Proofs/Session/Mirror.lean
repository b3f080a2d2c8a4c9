import ConfigTemplate.Proofs.Session.Watch

/-!
# What the watch leaves alone

Work under watch mirrors an action when, begun with the stack of a trail, it gives the same result
and leaves the same session behind, and the stack as it was. All work under watch mirrors the work
itself: whether a key closes a loop is asked of the stack there and of the trail here, and these
have the same keys. So whatever was seen under watch was done in the session.
-/

namespace ConfigTemplate

namespace Watching

variable {α β : Type} {trail : Trail} {fs : List Frame} {e : Watched}

/-- Whether work under watch does what an action does and leaves the stack of a trail behind. -/
structure MirrorsAt (trail : Trail) (work : Watching α) (action : Action α) (fs : List Frame)
    (e : Watched) : Prop where
  result : (work.result fs e).mapError Stop.halt = action.result e.session
  session : (work.final fs e).session = action.final e.session
  stack : (work.final fs e).stack = trail.stack

/-- Whether work under watch mirrors an action wherever it begins with the stack of a trail. -/
def Mirrors (trail : Trail) (work : Watching α) (action : Action α) : Prop :=
  ∀ fs e, e.stack = trail.stack → MirrorsAt trail work action fs e

theorem MirrorsAt.result_ok {work : Watching α} {action : Action α} {x : α}
    (h : MirrorsAt trail work action fs e) (ok : work.result fs e = .ok x) :
    action.result e.session = .ok x := by
  rw [← h.result, ok]
  rfl

theorem MirrorsAt.result_error {work : Watching α} {action : Action α} {stop : Stop}
    (h : MirrorsAt trail work action fs e) (error : work.result fs e = .error stop) :
    action.result e.session = .error stop.halt := by
  rw [← h.result, error]
  rfl

/-- An action that is stopped is stopped under watch. -/
theorem MirrorsAt.exists_stop {work : Watching α} {action : Action α} {halt : Halt}
    (h : MirrorsAt trail work action fs e) (error : action.result e.session = .error halt) :
    ∃ stop, work.result fs e = .error stop ∧ stop.halt = halt := by
  cases result : work.result fs e with
  | ok x => cases error.symm.trans (h.result_ok result)
  | error stop => exact ⟨stop, rfl, Except.error.inj ((h.result_error result).symm.trans error)⟩

theorem MirrorsAt.bind {work : Watching α} {action : Action α} {next : α → Watching β}
    {next' : α → Action β} (first : MirrorsAt trail work action fs e)
    (rest : ∀ x, Mirrors trail (next x) (next' x)) :
    MirrorsAt trail (work >>= next) (action >>= next') fs e := by
  cases result : work.result fs e with
  | error stop =>
    have error := first.result_error result
    refine ⟨?_, ?_, ?_⟩
    · rw [result_bind_of_error result, Action.result_bind_of_error error]
      rfl
    · rw [final_bind_of_error result, Action.final_bind_of_error error]
      exact first.session
    · rw [final_bind_of_error result]
      exact first.stack
  | ok x =>
    have ok := first.result_ok result
    have goesOn := rest x fs _ first.stack
    refine ⟨?_, ?_, ?_⟩
    · rw [result_bind_of_ok result, Action.result_bind_of_ok ok, ← first.session]
      exact goesOn.result
    · rw [final_bind_of_ok result, Action.final_bind_of_ok ok, ← first.session]
      exact goesOn.session
    · rw [final_bind_of_ok result]
      exact goesOn.stack

theorem Mirrors.bind {work : Watching α} {action : Action α} {next : α → Watching β}
    {next' : α → Action β} (first : Mirrors trail work action)
    (rest : ∀ x, Mirrors trail (next x) (next' x)) :
    Mirrors trail (work >>= next) (action >>= next') :=
  fun fs e stack => (first fs e stack).bind rest

/-- Work that looks at the session first mirrors an action that does so. -/
theorem Mirrors.get_bind {next : Watched → Watching α} {next' : Session → Action α}
    (h : ∀ fs e, e.stack = trail.stack → MirrorsAt trail (next e) (next' e.session) fs e) :
    Mirrors trail (get >>= next) (get >>= next') :=
  fun fs e stack =>
    have same := h fs e stack
    ⟨same.result, same.session, same.stack⟩

theorem Mirrors.act_bind {act : Act} {next : Unit → Watching α} {action : Action α}
    (h : Mirrors trail (next ()) action) : Mirrors trail (Watching.act act >>= next) action :=
  fun fs e stack =>
    have same := h fs (e.acted act) stack
    ⟨same.result, same.session, same.stack⟩

/-- What is told of something that is raised changes nothing. -/
theorem Mirrors.ring_bind {site : Site} {fate : Fate} {halt : Halt} {next : Unit → Watching α}
    {action : Action α} (h : Mirrors trail (next ()) action) :
    Mirrors trail (ring site fate halt >>= next) action :=
  fun fs e stack =>
    have same := h fs (e.alarmed (⟨halt, site, fate, fs, false⟩ :: e.alarms)) stack
    ⟨same.result, same.session, same.stack⟩

theorem Mirrors.pure (x : α) : Mirrors trail (pure x : Watching α) (pure x) :=
  fun _ _ stack => ⟨rfl, rfl, stack⟩

theorem Mirrors.stop (halt : Halt) : Mirrors trail (stop halt : Watching α) (throw halt) :=
  fun _ _ stack => ⟨rfl, rfl, stack⟩

theorem Mirrors.raise (site : Site) (halt : Halt) :
    Mirrors trail (raise site halt : Watching α) (throw halt) :=
  .ring_bind (.stop halt)

theorem Mirrors.throw {stop : Stop} {halt : Halt} (same : stop.halt = halt) :
    Mirrors trail (throw stop : Watching α) (throw halt) :=
  fun _ _ stack => ⟨congrArg Except.error same, rfl, stack⟩

theorem Mirrors.note (event : Event) :
    Mirrors trail (Watching.note event) (Action.note event) :=
  fun _ _ stack => ⟨rfl, rfl, stack⟩

theorem Mirrors.mark (key : String) (mark : Mark) :
    Mirrors trail (Watching.mark key mark) (Action.mark key mark) :=
  fun _ _ stack => ⟨rfl, rfl, stack⟩

theorem Mirrors.store (key : String) (value : Json) :
    Mirrors trail (Watching.store key value) (Action.store key value) :=
  fun _ _ stack => ⟨rfl, rfl, stack⟩

/-- An action that is never stopped. -/
theorem Mirrors.tell {action : Action Unit} (goesOn : ∀ s, action.result s = .ok ()) :
    Mirrors trail (Watching.tell action) action :=
  fun _ e stack => ⟨(goesOn e.session).symm, rfl, stack⟩

theorem Mirrors.plain (site : Site) (action : Action α) :
    Mirrors trail (plain site action) action := by
  intro fs e stack
  cases result : action.result e.session with
  | ok x =>
    refine ⟨?_, ?_, ?_⟩
    · rw [result_plain, result]
      rfl
    · rw [final_plain_of_ok result]
    · rwa [final_plain_of_ok result]
  | error halt =>
    refine ⟨?_, ?_, ?_⟩
    · rw [result_plain, result]
      rfl
    · rw [final_plain_of_error result]
      rfl
    · rw [final_plain_of_error result]
      exact stack

/-- To work on behalf of one more text changes nothing. -/
theorem Mirrors.within {work : Watching α} {action : Action α} (h : Mirrors trail work action)
    (f : Frame) : Mirrors trail (within f work) action :=
  fun fs e stack =>
    have same := h (f :: fs) e stack
    ⟨same.result, same.session, same.stack⟩

/-- An attempt goes on with what came of it. -/
theorem MirrorsAt.attempt_bind {inner : Trail} {work : Watching α} {action : Action α}
    {next : Except Stop α → Watching β} {next' : Except Halt α → Action β}
    (first : MirrorsAt inner work action fs e)
    (rest : ∀ outcome e', e'.stack = inner.stack →
      MirrorsAt trail (next outcome) (next' (outcome.mapError Stop.halt)) fs e') :
    MirrorsAt trail (attempt work >>= next) (Action.attempt action >>= next') fs e := by
  have goesOn := rest (work.result fs e) _ first.stack
  have here := result_attempt fs e work
  have there := Action.result_attempt e.session action
  rw [first.result] at goesOn
  refine ⟨?_, ?_, ?_⟩
  · rw [result_bind_of_ok here, Action.result_bind_of_ok there, final_attempt,
      Action.final_attempt, ← first.session]
    exact goesOn.result
  · rw [final_bind_of_ok here, Action.final_bind_of_ok there, final_attempt,
      Action.final_attempt, ← first.session]
    exact goesOn.session
  · rw [final_bind_of_ok here, final_attempt]
    exact goesOn.stack

/-- What is let through is what the call gives. -/
theorem Mirrors.letThrough {work : Watching α} {action : Action α} (h : Mirrors trail work action) :
    Mirrors trail (letThrough work) action := by
  intro fs e stack
  have same := h fs e stack
  cases result : work.result fs e with
  | ok x =>
    have final := final_letThrough_of_ok result
    exact ⟨by rw [result_letThrough, same.result], by rw [final, same.session],
      by rw [final, same.stack]⟩
  | error stop =>
    have final := final_letThrough_of_error result
    exact ⟨by rw [result_letThrough, same.result], by rw [final, ← same.session]; rfl,
      by rw [final, ← same.stack]; rfl⟩

/-- What is overheard of a call is what an attempt at it gives. -/
theorem Mirrors.overhear {work : Watching α} {action : Action α} (h : Mirrors trail work action) :
    Mirrors trail (overhear work) (Action.attempt action) :=
  fun fs e stack =>
    have same := h fs (e.alarmed []) stack
    ⟨congrArg Except.ok same.result, same.session, same.stack⟩

/-! ### The work -/

theorem mirrors_orMissing (missing : Failure) (found : Except Failure α) :
    Mirrors trail (orMissing missing found) (Session.orMissing missing found) := by
  cases found with
  | ok value => exact .pure _
  | error other =>
    cases other with
    | keyNotFound key why => exact .ring_bind (.stop _)
    | _ => exact .raise _ _

section Enter

variable {setup : Setup} {enter : Enter} {enter' : Session.Enter}
variable (enters : ∀ call, Mirrors trail (enter.answer call) (enter'.answer call))

include enters

theorem mirrors_elementTexts (keys : List String) :
    Mirrors trail (elementTexts enter keys) (Session.elementTexts enter' keys) := by
  induction keys with
  | nil => exact .pure _
  | cons key rest ih => exact (enters _).bind fun value => ih.bind fun others => .pure _

theorem mirrors_joinElements (missing : Failure) (join : Join) :
    Mirrors trail (joinElements setup enter missing join)
      (Session.joinElements setup enter' missing join) := by
  unfold joinElements Session.joinElements
  refine .get_bind fun fs e stack => ?_
  refine (mirrors_orMissing missing _).bind (fun found => ?_) fs e stack
  refine (Mirrors.tell fun s => (Session.sameMemory_notePick s ..).1).bind fun _ => ?_
  refine (mirrors_orMissing missing _).bind fun paths => ?_
  refine (mirrors_elementTexts enters paths).bind fun texts => ?_
  by_cases none : texts.isEmpty
  · rw [if_pos none, if_pos none]
    exact (Mirrors.stop _).bind fun _ => (Mirrors.note _).bind fun _ => .pure _
  · rw [if_neg none, if_neg none]
    exact (Mirrors.note _).bind fun _ => .pure _

theorem mirrors_consult (reply : Reply) :
    Mirrors trail (consult enter reply) (Session.consult enter' reply) := by
  induction reply with
  | answer text => exact .pure _
  | stop halt => exact .raise _ _
  | look next ih => exact .get_bind fun fs e stack => ih e.session fs e stack
  | ask call next ih => exact .act_bind ((enters call).letThrough.bind ih)
  | attempt call next ih => exact .act_bind ((enters call).overhear.bind ih)

theorem mirrors_applyHandler (handler : Handler) (failure : Failure) :
    Mirrors trail (applyHandler setup enter handler failure)
      (Session.applyHandler setup enter' handler failure) := by
  cases handler with
  | joinElements =>
    cases failure with
    | keyNotFound key why =>
      unfold applyHandler Session.applyHandler
      dsimp only
      cases Join.ofExpression? key with
      | some join => exact mirrors_joinElements enters _ join
      | none => exact .stop _
    | _ => exact .stop _
  | reportLoop =>
    cases failure with
    | circular key trail => exact (Mirrors.note _).bind fun _ => .stop _
    | _ => exact .stop _
  | reply respond => exact mirrors_consult enters _

/-- What is told of an answer leaves it as it is. -/
theorem mirrors_recover (site : Site) (failure : Failure) :
    Mirrors trail (recover setup enter site failure) (Session.recover setup enter' failure) := by
  unfold recover Session.recover
  cases setup.registry.get? failure.kind with
  | none => exact .raise _ _
  | some handler =>
    refine .act_bind fun fs e stack => ?_
    have applied : MirrorsAt trail (applyHandler setup enter handler failure)
        (Session.applyHandler setup enter' handler failure) fs e :=
      mirrors_applyHandler enters handler failure fs e stack
    have tried := result_attempt fs e (applyHandler setup enter handler failure)
    refine ⟨?_, ?_, ?_⟩
    · rw [result_bind_of_ok tried, ← applied.result]
      cases (applyHandler setup enter handler failure).result fs e <;> rfl
    · rw [final_bind_of_ok tried, final_attempt, ← applied.session]
      cases (applyHandler setup enter handler failure).result fs e <;> rfl
    · rw [final_bind_of_ok tried, final_attempt, ← applied.stack]
      cases (applyHandler setup enter handler failure).result fs e <;> rfl

theorem mirrors_follow (expression : String) :
    Mirrors trail (follow setup enter expression) (Session.follow setup enter' expression) := by
  unfold follow Session.follow
  refine .act_bind (.get_bind fun fs e stack => ?_)
  cases e.session.flat.resolve setup.options.uniqueMatch expression with
  | ok found =>
    have told : Mirrors trail (tell (Action.notePick expression found)) _ :=
      .tell fun s => (Session.sameMemory_notePick s ..).1
    exact told.bind (fun _ => enters _) fs e stack
  | error failure =>
    cases failure with
    | keyNotFound key why =>
      exact (mirrors_recover enters _ _).bind (fun _ => .pure _) fs e stack
    | _ => exact Mirrors.raise _ _ fs e stack

theorem mirrors_replacement (owner : Option String) (source : String) (p : Placeholder) :
    Mirrors trail (replacement setup enter owner source p)
      (Session.replacement setup enter' owner source p) := by
  unfold replacement Session.replacement
  cases p.kind with
  | reference =>
    intro fs e stack
    refine (mirrors_follow enters _ fs e stack).attempt_bind fun outcome e' stack' => ?_
    cases outcome with
    | ok value => exact Mirrors.pure _ fs e' stack'
    | error stop =>
      obtain ⟨halt, keys, frames⟩ := stop
      cases halt with
      | failure failure => exact Mirrors.throw rfl fs e' stack'
      | mishap mishap => exact Mirrors.ring_bind (.throw rfl) fs e' stack'
  | command => exact .act_bind (.plain _ _)
  | envVar => exact .act_bind ((Mirrors.note _).bind fun _ => .plain _ _)

theorem mirrors_substitute (owner : Option String) (count : Nat) (text : String) :
    Mirrors trail (substitute setup enter owner count text)
      (Session.substitute setup enter' owner count text) := by
  induction count generalizing text with
  | zero =>
    unfold substitute Session.substitute
    cases Placeholder.scan (Session.kinds setup) text with
    | none => exact .pure _
    | some p => exact .raise _ _
  | succ count ih =>
    unfold substitute Session.substitute
    cases Placeholder.scan (Session.kinds setup) text with
    | none => exact .pure _
    | some p =>
      refine ((mirrors_replacement enters owner text p).within _).bind fun new => ?_
      refine (Mirrors.note _).bind fun _ => ?_
      by_cases same : p.splice text new = text
      · dsimp only
        rw [if_pos same, if_pos same]
        exact (Mirrors.note _).bind fun _ => .pure _
      · dsimp only
        rw [if_neg same, if_neg same]
        exact ih _

theorem mirrors_resolveValue (key : String) :
    Mirrors trail (resolveValue setup enter key) (Session.resolveValue setup enter' key) := by
  unfold resolveValue Session.resolveValue
  refine .get_bind fun fs e stack => ?_
  cases e.session.flat.get? key with
  | none => exact Mirrors.raise _ _ fs e stack
  | some value =>
    cases value with
    | str text =>
      refine (mirrors_substitute enters (some key) _ text).bind (fun new => ?_) fs e stack
      exact (Mirrors.store _ _).bind fun _ => .pure _
    | _ => exact Mirrors.pure _ fs e stack

theorem mirrors_resolveEach (keys : List String) :
    Mirrors trail (resolveEach enter keys) (Session.resolveEach enter' keys) := by
  induction keys with
  | nil => exact .pure _
  | cons key rest ih => exact (enters _).bind fun _ => ih

theorem mirrors_resolvePending :
    Mirrors trail (resolvePending setup enter) (Session.resolvePending setup enter') := by
  unfold resolvePending Session.resolvePending
  refine .get_bind fun fs e stack => ?_
  by_cases none : (Session.pending setup e.session).isEmpty
  · dsimp only
    rw [if_pos none, if_pos none]
    exact Mirrors.note _ fs e stack
  · dsimp only
    rw [if_neg none, if_neg none]
    exact (Mirrors.note _).bind (fun _ => mirrors_resolveEach enters _) fs e stack

end Enter

section Key

variable {setup : Setup} {longer : Trail} {key : String}

/-- A pop goes back to the stack of the shorter trail. -/
theorem MirrorsAt.pop_bind {next : Unit → Watching α} {action : Action α}
    (pushed : trail.push key = .ok longer) (stack : e.stack = longer.stack)
    (rest : Mirrors trail (next ()) action) : MirrorsAt trail (pop >>= next) action fs e := by
  have popped : e.stack.pop = .ok trail.stack := stack ▸ Trail.pop_stack_of_push pushed
  have same := rest fs (e.stacked .pop trail.stack) rfl
  refine ⟨?_, ?_, ?_⟩
  · rw [result_bind_of_ok (result_pop popped), final_pop popped]
    exact same.result
  · rw [final_bind_of_ok (result_pop popped), final_pop popped]
    exact same.session
  · rw [final_bind_of_ok (result_pop popped), final_pop popped]
    exact same.stack

/-- A mark is the same under watch, whatever the stack is. -/
theorem MirrorsAt.mark_bind {other : String} {mark : Mark} {next : Unit → Watching α}
    {next' : Unit → Action α}
    (rest : MirrorsAt trail (next ()) (next' ()) fs (e.marked other mark)) :
    MirrorsAt trail (Watching.mark other mark >>= next) (Action.mark other mark >>= next') fs e :=
  ⟨rest.result, rest.session, rest.stack⟩

theorem MirrorsAt.note_bind {event : Event} {next : Unit → Watching α} {next' : Unit → Action α}
    (rest : MirrorsAt trail (next ()) (next' ()) fs (e.noted event)) :
    MirrorsAt trail (Watching.note event >>= next) (Action.note event >>= next') fs e :=
  ⟨rest.result, rest.session, rest.stack⟩

/-- To enter a key that was pushed leaves the stack without it behind. -/
theorem mirrors_enterKey {enter : Enter} {enter' : Session.Enter}
    (pushed : trail.push key = .ok longer)
    (enters : ∀ call, Mirrors longer (enter.answer call) (enter'.answer call))
    (stack : e.stack = longer.stack) :
    MirrorsAt trail (enterKey setup enter key) (Session.enterKey setup enter' key) fs e := by
  unfold enterKey Session.enterKey
  apply MirrorsAt.mark_bind
  apply MirrorsAt.note_bind
  let entered := (e.marked key .inProgress).noted (.entered key)
  -- The value is resolved with the longer stack. Only the pop goes back to the shorter one, before
  -- the key is marked as resolved but after it was marked as failed.
  refine (mirrors_resolveValue enters key fs entered stack).attempt_bind fun outcome e' stack' => ?_
  cases outcome with
  | error stop =>
    refine .mark_bind (.pop_bind pushed stack' ?_)
    exact (Mirrors.note _).bind fun _ => .throw rfl
  | ok value =>
    refine .pop_bind pushed stack' ?_
    refine (Mirrors.mark _ _).bind fun _ => (Mirrors.note _).bind fun _ => ?_
    exact (Mirrors.tell fun s => Session.result_noteWithheld ..).bind fun _ => .pure _

section Deeper

variable {deeper : Enter} {deeper' : Trail → Session.Enter}
variable (enters : ∀ trail call, Mirrors trail (deeper.answer call) ((deeper' trail).answer call))

include enters

theorem mirrors_resolveStep (trail : Trail) (key : String) :
    Mirrors trail (resolveStep setup deeper key) (Session.resolveStep setup deeper' trail key) := by
  unfold resolveStep Session.resolveStep
  refine .act_bind (.get_bind fun fs e stack => ?_)
  by_cases resolved : e.session.mark key = .resolved
  · rw [if_pos resolved, if_pos resolved]
    cases e.session.flat.get? key with
    | some value => exact Mirrors.pure _ fs e stack
    | none => exact Mirrors.raise _ _ fs e stack
  · rw [if_neg resolved, if_neg resolved, stack, Trail.push_stack]
    cases pushed : trail.push key with
    | error failure =>
      exact Mirrors.act_bind ((mirrors_recover (enters trail) _ _).bind fun _ => .pure _) fs e stack
    | ok longer =>
      have entered : MirrorsAt trail (enterKey setup deeper key)
          (Session.enterKey setup (deeper' longer) key) fs
          (e.stacked (.push key) longer.stack) :=
        mirrors_enterKey pushed (enters longer) rfl
      exact ⟨entered.result, entered.session, entered.stack⟩

theorem mirrors_answerStep (trail : Trail) (call : Session.Call) :
    Mirrors trail ((answerStep setup deeper).answer call)
      ((Session.answerStep setup deeper' trail).answer call) := by
  cases call with
  | resolveKey key => exact mirrors_resolveStep enters trail key
  | lookup expression => exact mirrors_follow (enters trail) expression
  | expand text => exact (mirrors_substitute (enters trail) none _ text).bind fun _ => .pure _
  | resolveAll => exact (mirrors_resolvePending (enters trail)).bind fun _ => .pure _

end Deeper

theorem mirrors_resolveOn (setup : Setup) (room : Nat) (trail : Trail) (call : Session.Call) :
    Mirrors trail ((resolveOn setup room).answer call)
      ((Session.resolveOn setup room trail).answer call) := by
  induction room generalizing trail call with
  | zero => exact mirrors_answerStep (fun _ _ => .raise _ _) trail call
  | succ room ih => exact mirrors_answerStep ih trail call

theorem mirrors_atRest (setup : Setup) (call : Session.Call) :
    Mirrors .empty ((atRest setup).answer call) ((Session.atRest setup).answer call) :=
  .get_bind fun fs e => mirrors_resolveOn setup _ .empty call fs e

/-- A call under watch does what the call does. -/
theorem mirrors_call (setup : Setup) (call : Session.Call) :
    Mirrors .empty (call.watching setup) (call.action setup) := by
  have enters := mirrors_atRest setup
  cases call with
  | resolveKey key => exact (enters _).bind fun _ => .pure _
  | lookup expression => exact (mirrors_follow enters expression).bind fun _ => .pure _
  | expand text => exact (mirrors_substitute enters none _ text).bind fun _ => .pure _
  | resolveAll => exact mirrors_resolvePending enters

end Key

end Watching

namespace Session.Call

variable (setup : Setup) (call : Call) (s : Session)

private theorem final_bind_pure {α : Type} (action : Action α) :
    (do let _ ← action).final s = action.final s := by
  cases result : action.result s with
  | ok x => exact Action.final_bind_of_ok result _
  | error halt => exact Action.final_bind_of_error result _

/-- The session that is left behind does not depend on what a call gives. -/
theorem final_action : (call.action setup).final s = call.final setup s := by
  cases call with
  | resolveAll => rfl
  | _ => exact final_bind_pure s _

end Session.Call

namespace Watched

open Watching

variable {setup : Setup} {e : Watched}

/-- After some calls the watch has the session that they leave behind, and nothing is on the
stack. -/
theorem session_after (calls : List Session.Call) (stack : e.stack = .empty) :
    (e.after setup calls).session = Session.after setup calls e.session ∧
      (e.after setup calls).stack = .empty := by
  induction calls generalizing e with
  | nil => exact ⟨rfl, stack⟩
  | cons call rest ih =>
    have same := mirrors_call setup call [] e (stack.trans Trail.stack_empty.symm)
    have goesOn := ih (same.stack.trans Trail.stack_empty)
    refine ⟨goesOn.1.trans ?_, goesOn.2⟩
    rw [same.session, Session.Call.final_action]
    rfl

end Watched

end ConfigTemplate
