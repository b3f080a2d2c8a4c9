import ConfigTemplate.Proofs.Session.Alarm
import ConfigTemplate.Proofs.Session.History

/-!
# Sessions under watch

The work of a session once more, as it is seen by someone who watches: with the stack of the keys
that are being resolved, with a record of everything that is done and the state in which it is done,
and with a record of what is raised. A stop has the place that it comes from with it. It is passed
on as it was raised; a mishap on the way to a reference's value becomes a failure, but its place
remains.
-/

namespace ConfigTemplate

/-- What is done at work: something is begun that may go on to other work, or the stack, the mark of
a key or the value of a key is changed. -/
inductive Act where
  | lookUp (expression : String)
  | resolve (key : String)
  | handle (failure : Failure)
  | call (call : Session.Call)
  | run (command : String)
  | read (name : String)
  | push (key : String)
  | pop
  | mark (key : String) (mark : Mark)
  | store (key : String) (value : Json)

/-- Whether an act begins something: the lookup of an expression, the resolution of a key, the work
of a handler or a call that it makes, a command, or the reading of a variable. -/
def Act.Begins : Act → Prop
  | .lookUp _ | .resolve _ | .handle _ | .call _ | .run _ | .read _ => True
  | _ => False

/-- The state of a session at work. -/
structure Scene where
  session : Session
  stack : Stack

/-- A session under watch: its state, what was done, each act with the state in which it was done,
and what was raised, the latest first. -/
structure Watched extends Scene where
  acts : List (Act × Scene)
  alarms : List Alarm

/-- What stops the work, with the keys that were being resolved and the texts that were being
substituted, the innermost first, where it was raised. -/
structure Stop where
  halt : Halt
  keys : List String
  frames : List Frame

/-- A stop on the way to the value of a reference. A mishap is a failure of the value that holds the
reference. -/
def Stop.nested (stop : Stop) (owner : Option String) (p : Placeholder) : Stop :=
  match stop.halt with
  | .failure _ => stop
  | .mishap mishap =>
    { stop with
      halt := .failure (.nested (Session.ownerOr "<value>" owner) p.text (some mishap.message)) }

namespace Watched

/-- A session of which nothing was seen so far. Nothing is being resolved in it. -/
def begun (s : Session) : Watched := ⟨⟨s, .empty⟩, [], []⟩

/-- After an act that changes nothing. -/
def acted (e : Watched) (act : Act) : Watched := { e with acts := (act, e.toScene) :: e.acts }

/-- After an event. -/
def noted (e : Watched) (event : Event) : Watched := { e with session := e.session.noted event }

/-- With other alarms than were raised so far. -/
def alarmed (e : Watched) (alarms : List Alarm) : Watched := { e with alarms := alarms }

/-- After a change of the stack. -/
def stacked (e : Watched) (act : Act) (stack : Stack) : Watched :=
  { e.acted act with stack := stack }

/-- After a key was marked. -/
def marked (e : Watched) (key : String) (mark : Mark) : Watched :=
  { e.acted (.mark key mark) with session := e.session.marked key mark }

/-- After a value was stored. -/
def stored (e : Watched) (key : String) (value : Json) : Watched :=
  { e.acted (.store key value) with session := e.session.stored key value }

end Watched

/-- A piece of work under watch, on behalf of some texts that are being substituted. -/
abbrev Watching := ReaderT (List Frame) (ExceptT Stop (StateM Watched))

namespace Watching

variable {α : Type}

/-- How calls on the session are answered while some keys are being resolved. -/
structure Enter where
  answer : Session.Call → Watching Json

/-- The value of a key. -/
abbrev Enter.value (enter : Enter) (key : String) : Watching Json := enter.answer (.resolveKey key)

instance : CoeFun Enter fun _ => String → Watching Json := ⟨Enter.value⟩

/-- Stop the work here. -/
def stop (halt : Halt) : Watching α := do
  throw ⟨halt, (← get).stack.order, ← read⟩

/-- Tell of something that is raised here. -/
def ring (site : Site) (fate : Fate) (halt : Halt) : Watching Unit := do
  let fs ← read
  modify fun e => e.alarmed (⟨halt, site, fate, fs, false⟩ :: e.alarms)

/-- Raise something and pass it on. -/
def raise (site : Site) (halt : Halt) : Watching α := do
  ring site .passed halt
  stop halt

/-- Act without a change. -/
def act (act : Act) : Watching Unit := modify (·.acted act)

/-- Mark a key. -/
def mark (key : String) (mark : Mark) : Watching Unit := modify (·.marked key mark)

/-- Store a value. -/
def store (key : String) (value : Json) : Watching Unit := modify (·.stored key value)

/-- Add an event to the journal. -/
def note (event : Event) : Watching Unit := modify (·.noted event)

/-- Go on to a key that is not being resolved. -/
def push (key : String) (stack : Stack) : Watching Unit := modify (·.stacked (.push key) stack)

/-- Go back from the last key. -/
def pop : Watching Unit := do
  match (← get).stack.pop with
  | .ok stack => modify (·.stacked .pop stack)
  | .error mishap => stop (.mishap mishap)

/-- An action that resolves no keys and is not stopped. -/
def tell (action : Action Unit) : Watching Unit :=
  modify fun e => { e with session := action.final e.session }

/-- An action that resolves no keys. -/
def plain (site : Site) (action : Action α) : Watching α := do
  let e ← get
  set { e with session := action.final e.session }
  match action.result e.session with
  | .ok x => return x
  | .error halt => raise site halt

/-- The result of a piece of work that may be stopped. -/
def attempt (work : Watching α) : Watching (Except Stop α) := fun fs => ExceptT.lift (work fs).run

/-- The answer to a call that a handler makes. What stops the call stops the handler. -/
def letThrough (work : Watching α) : Watching α := do
  match ← attempt work with
  | .ok x => return x
  | .error stop =>
    ring .handler .passed stop.halt
    throw stop

/-- The result of a call that a handler attempts. If the call is stopped, the handler sees to what
was raised in the course of it. -/
def overhear (work : Watching α) : Watching (Except Halt α) := do
  let before := (← get).alarms
  modify (·.alarmed [])
  let outcome ← attempt work
  modify fun e => e.alarmed ((if outcome.isOk then e.alarms else e.alarms.map .seenTo) ++ before)
  return outcome.mapError Stop.halt

/-- Work on behalf of one more text. -/
def within (f : Frame) (work : Watching α) : Watching α := fun fs => work (f :: fs)

/-! ### The work -/

/-- Take a result, or stop with a given failure where nothing was found and with its own failure
otherwise. -/
def orMissing (missing : Failure) : Except Failure α → Watching α
  | .ok value => pure value
  | .error (.keyNotFound key why) => do
    ring .array (.replaced missing) (.failure (.keyNotFound key why))
    stop (.failure missing)
  | .error failure => raise .array (.failure failure)

/-- The texts of some keys' values, without the empty ones. -/
def elementTexts (enter : Enter) : List String → Watching (List String)
  | [] => pure []
  | key :: rest => do
    let value ← enter key
    let others ← elementTexts enter rest
    return if value.spliced = "" then others else value.spliced :: others

/-- The elements of an array with a separator between them. -/
def joinElements (setup : Setup) (enter : Enter) (missing : Failure) (join : Join) :
    Watching String := do
  let flat := (← get).session.flat
  let found ← orMissing missing (flat.pickArray setup.options.uniqueMatch join.path)
  tell (Action.notePick join.path found)
  let paths ← orMissing missing (flat.elementPaths join.path found.chosen)
  let texts ← elementTexts enter paths
  if texts.isEmpty then stop (.failure missing)
  note (.joined texts.length join)
  return String.intercalate join.separator texts

/-- Carry out a reply. -/
def consult (enter : Enter) : Reply → Watching String
  | .answer text => pure text
  | .stop halt => raise .handler halt
  | .look next => do consult enter (next (← get).session)
  | .ask call next => do
    act (.call call)
    consult enter (next (← letThrough (enter.answer call)))
  | .attempt call next => do
    act (.call call)
    consult enter (next (← overhear (enter.answer call)))

/-- What a handler makes of a failure. -/
def applyHandler (setup : Setup) (enter : Enter) (handler : Handler) (failure : Failure) :
    Watching String :=
  match handler, failure with
  | .joinElements, .keyNotFound key _ =>
    match Join.ofExpression? key with
    | some join => joinElements setup enter failure join
    | none => stop (.failure failure)
  | .joinElements, _ => stop (.failure failure)
  | .reportLoop, .circular key trail => do
    note (.loopReported key trail)
    stop (.failure failure)
  | .reportLoop, _ => stop (.failure failure)
  | .reply respond, _ => consult enter (respond failure)

/-- Tell what a handler made of a failure that was raised. -/
def answered (site : Site) (handler : Handler) (failure : Failure) :
    Except Stop String → Watching String
  | .ok text => do
    ring site (.offered handler (.ok text)) (.failure failure)
    return text
  | .error stop => do
    ring site (.offered handler (.error stop.halt)) (.failure failure)
    throw stop

/-- Raise a failure and offer it to the handler of its kind. -/
def recover (setup : Setup) (enter : Enter) (site : Site) (failure : Failure) :
    Watching String := do
  match setup.registry.get? failure.kind with
  | some handler =>
    act (.handle failure)
    answered site handler failure (← attempt (applyHandler setup enter handler failure))
  | none => raise site (.failure failure)

/-- The value that a reference leads to. -/
def follow (setup : Setup) (enter : Enter) (expression : String) : Watching Json := do
  act (.lookUp expression)
  match (← get).session.flat.resolve setup.options.uniqueMatch expression with
  | .ok found =>
    tell (Action.notePick expression found)
    enter found.chosen
  | .error (.keyNotFound key why) =>
    return .str (← recover setup enter .lookup (.keyNotFound key why))
  | .error failure => raise .lookup (.failure failure)

/-- Pass a stop on to the text that holds the reference. -/
def passOn (owner : Option String) (p : Placeholder) (stop : Stop) : Watching α := do
  match stop.halt with
  | .failure _ => throw stop
  | .mishap _ =>
    ring .reference .passed (stop.nested owner p).halt
    throw (stop.nested owner p)

/-- The text that takes the place of a placeholder. -/
def replacement (setup : Setup) (enter : Enter) (owner : Option String) (source : String)
    (p : Placeholder) : Watching String := do
  match p.kind with
  | .reference =>
    match ← attempt (follow setup enter (Text.trimmed p.payload)) with
    | .ok value => return value.spliced
    | .error stop => passOn owner p stop
  | .command =>
    act (.run p.payload)
    plain .command (Session.runCommand setup source p.payload)
  | .envVar =>
    act (.read p.payload)
    note (.read p.payload)
    plain .variable (Session.orFail (Session.readVariable setup.host p.payload))

/-- A text with its placeholders substituted. The number bounds the substitutions. -/
def substitute (setup : Setup) (enter : Enter) (owner : Option String) :
    Nat → String → Watching String
  | 0, text =>
    match Placeholder.scan (Session.kinds setup) text with
    | none => pure text
    | some p =>
      raise .limit (.failure
        (.substitutionLimit (Session.ownerOr text owner) setup.options.limit p.text))
  | count + 1, text =>
    match Placeholder.scan (Session.kinds setup) text with
    | none => pure text
    | some p => do
      let frame : Frame := ⟨owner, text, setup.options.limit.toNat - (count + 1)⟩
      let new ← within frame (replacement setup enter owner text p)
      note (.replaced text p new)
      let updated := p.splice text new
      if updated = text then
        note (.stalled (Session.ownerOr text owner) p.text)
        return text
      else substitute setup enter owner count updated

/-- A text with its placeholders substituted, within the limit of the session. -/
def substituteAll (setup : Setup) (enter : Enter) (owner : Option String) (text : String) :
    Watching String :=
  substitute setup enter owner setup.options.limit.toNat text

/-- The resolved form of the value of a key that was entered. -/
def resolveValue (setup : Setup) (enter : Enter) (key : String) : Watching Json := do
  match (← get).session.flat.get? key with
  | none => raise .path (.mishap (.unknownPath key))
  | some (.str text) =>
    let text ← substituteAll setup enter (some key) text
    store key (.str text)
    return .str text
  | some value => return value

/-- Pop a key and mark it by what came of its value. -/
def leaveKey (setup : Setup) (key : String) : Except Stop Json → Watching Json
  | .error stop => do
    mark key .failed
    pop
    note (.failed key)
    throw stop
  | .ok value => do
    pop
    mark key .resolved
    note (.settled key value)
    tell (Session.noteWithheld setup key value)
    return value

/-- Resolve a key that was pushed. -/
def enterKey (setup : Setup) (enter : Enter) (key : String) : Watching Json := do
  mark key .inProgress
  note (.entered key)
  leaveKey setup key (← attempt (resolveValue setup enter key))

/-- Resolve keys one after the other. -/
def resolveEach (enter : Enter) : List String → Watching Unit
  | [] => pure ()
  | key :: rest => do
    let _ ← enter key
    resolveEach enter rest

/-- Resolve every value that has placeholders. -/
def resolvePending (setup : Setup) (enter : Enter) : Watching Unit := do
  let keys := Session.pending setup (← get).session
  if keys.isEmpty then note .nothingPending
  else
    note (.pendingFound keys.length)
    resolveEach enter keys

/-- Resolve a key. `deeper` answers calls with the stack as it is then. -/
def resolveStep (setup : Setup) (deeper : Enter) (key : String) : Watching Json := do
  act (.resolve key)
  let e ← get
  if e.session.mark key = .resolved then
    match e.session.flat.get? key with
    | some value => return value
    | none => raise .path (.mishap (.unknownPath key))
  else
    match e.stack.push key with
    | .error failure =>
      act (.push key)
      return .str (← recover setup deeper .loop failure)
    | .ok longer =>
      push key longer
      enterKey setup deeper key

/-- Answer a call. -/
def answerStep (setup : Setup) (deeper : Enter) : Enter where
  answer
    | .resolveKey key => resolveStep setup deeper key
    | .lookup expression => follow setup deeper expression
    | .expand text => do return .str (← substituteAll setup deeper none text)
    | .resolveAll => do
      resolvePending setup deeper
      return .null

/-- No call is answered any more. -/
def exhausted : Enter := ⟨fun _ => raise .depth (.mishap .tooDeep)⟩

/-- How calls are answered. The number is how many keys may be entered and calls be made inside one
another. -/
def resolveOn (setup : Setup) : Nat → Enter
  | 0 => answerStep setup exhausted
  | room + 1 => answerStep setup (resolveOn setup room)

/-- How calls are answered while no key is being resolved. -/
def atRest (setup : Setup) : Enter where
  answer call := do
    let room := (← get).session.flat.size + setup.registry.depth
    (resolveOn setup room).answer call

end Watching

namespace Session.Call

/-- What a call does, whatever it gives. -/
def action (setup : Setup) : Call → Action Unit
  | .resolveKey key => do let _ ← Session.resolveKey setup key
  | .lookup expression => do let _ ← Session.lookup setup expression
  | .expand text => do let _ ← Session.expand setup text
  | .resolveAll => Session.resolveAll setup

/-- What a call does, under watch. -/
def watching (setup : Setup) : Call → Watching Unit
  | .resolveKey key => do let _ ← Watching.atRest setup key
  | .lookup expression => do let _ ← Watching.follow setup (Watching.atRest setup) expression
  | .expand text => do
    let _ ← Watching.substituteAll setup (Watching.atRest setup) none text
  | .resolveAll => Watching.resolvePending setup (Watching.atRest setup)

end Session.Call

/-! ### Runs -/

namespace Watching

variable {α β : Type}

/-- What a piece of work gives. -/
def result (work : Watching α) (fs : List Frame) (e : Watched) : Except Stop α := (work fs e).1

/-- The session that a piece of work leaves behind. -/
def final (work : Watching α) (fs : List Frame) (e : Watched) : Watched := (work fs e).2

variable (fs : List Frame) (e : Watched)

@[simp] theorem result_pure (x : α) : (pure x : Watching α).result fs e = .ok x := rfl

@[simp] theorem final_pure (x : α) : (pure x : Watching α).final fs e = e := rfl

@[simp] theorem result_get : (get : Watching Watched).result fs e = .ok e := rfl

@[simp] theorem final_get : (get : Watching Watched).final fs e = e := rfl

@[simp] theorem result_throw (stop : Stop) :
    (throw stop : Watching α).result fs e = .error stop := rfl

@[simp] theorem final_throw (stop : Stop) : (throw stop : Watching α).final fs e = e := rfl

@[simp] theorem result_stop (halt : Halt) :
    (stop halt : Watching α).result fs e = .error ⟨halt, e.stack.order, fs⟩ := rfl

@[simp] theorem final_stop (halt : Halt) : (stop halt : Watching α).final fs e = e := rfl

@[simp] theorem result_ring (site : Site) (fate : Fate) (halt : Halt) :
    (ring site fate halt).result fs e = .ok () := rfl

@[simp] theorem final_ring (site : Site) (fate : Fate) (halt : Halt) :
    (ring site fate halt).final fs e =
      e.alarmed (⟨halt, site, fate, fs, false⟩ :: e.alarms) := rfl

@[simp] theorem result_raise (site : Site) (halt : Halt) :
    (raise site halt : Watching α).result fs e = .error ⟨halt, e.stack.order, fs⟩ := rfl

@[simp] theorem final_raise (site : Site) (halt : Halt) :
    (raise site halt : Watching α).final fs e =
      e.alarmed (⟨halt, site, .passed, fs, false⟩ :: e.alarms) := rfl

@[simp] theorem result_act (act : Act) : (Watching.act act).result fs e = .ok () := rfl

@[simp] theorem final_act (act : Act) : (Watching.act act).final fs e = e.acted act := rfl

@[simp] theorem result_tell (action : Action Unit) : (tell action).result fs e = .ok () := rfl

@[simp] theorem final_tell (action : Action Unit) :
    (tell action).final fs e = { e with session := action.final e.session } := rfl

@[simp] theorem result_note (event : Event) : (note event).result fs e = .ok () := rfl

@[simp] theorem final_note (event : Event) : (note event).final fs e = e.noted event := rfl

@[simp] theorem result_mark (key : String) (mark : Mark) :
    (Watching.mark key mark).result fs e = .ok () := rfl

@[simp] theorem final_mark (key : String) (mark : Mark) :
    (Watching.mark key mark).final fs e = e.marked key mark := rfl

@[simp] theorem result_push (key : String) (stack : Stack) :
    (push key stack).result fs e = .ok () := rfl

@[simp] theorem final_push (key : String) (stack : Stack) :
    (push key stack).final fs e = e.stacked (.push key) stack := rfl

@[simp] theorem result_store (key : String) (value : Json) :
    (store key value).result fs e = .ok () := rfl

@[simp] theorem final_store (key : String) (value : Json) :
    (store key value).final fs e = e.stored key value := rfl

@[simp] theorem result_attempt (work : Watching α) :
    (attempt work).result fs e = .ok (work.result fs e) := rfl

@[simp] theorem final_attempt (work : Watching α) :
    (attempt work).final fs e = work.final fs e := rfl

@[simp] theorem result_within (f : Frame) (work : Watching α) :
    (within f work).result fs e = work.result (f :: fs) e := rfl

@[simp] theorem final_within (f : Frame) (work : Watching α) :
    (within f work).final fs e = work.final (f :: fs) e := rfl

/-- What was overheard is what came of the work. -/
@[simp] theorem result_overhear (work : Watching α) : (overhear work).result fs e =
    .ok ((work.result fs (e.alarmed [])).mapError Stop.halt) := rfl

theorem final_overhear (work : Watching α) : (overhear work).final fs e =
    (work.final fs (e.alarmed [])).alarmed
      ((if (work.result fs (e.alarmed [])).isOk then (work.final fs (e.alarmed [])).alarms
        else (work.final fs (e.alarmed [])).alarms.map .seenTo) ++ e.alarms) := rfl

theorem result_plain (site : Site) (action : Action α) : (plain site action).result fs e =
    (action.result e.session).mapError fun halt => ⟨halt, e.stack.order, fs⟩ := by
  change (match action.result e.session with
    | .ok x => (pure x : Watching α)
    | .error halt => raise site halt).result fs { e with session := action.final e.session } = _
  cases action.result e.session <;> rfl

variable {fs e}

theorem final_plain_of_ok {site : Site} {action : Action α} {x : α}
    (ok : action.result e.session = .ok x) :
    (plain site action).final fs e = { e with session := action.final e.session } := by
  change (match action.result e.session with
    | .ok x => (pure x : Watching α)
    | .error halt => raise site halt).final fs { e with session := action.final e.session } = _
  rw [ok]
  rfl

theorem final_plain_of_error {site : Site} {action : Action α} {halt : Halt}
    (error : action.result e.session = .error halt) :
    (plain site action).final fs e = (raise site halt : Watching α).final fs
      { e with session := action.final e.session } := by
  change (match action.result e.session with
    | .ok x => (pure x : Watching α)
    | .error halt => raise site halt).final fs { e with session := action.final e.session } = _
  rw [error]

theorem result_pop {stack : Stack} (popped : e.stack.pop = .ok stack) :
    pop.result fs e = .ok () := by
  change (match e.stack.pop with
    | .ok stack => modify (·.stacked .pop stack)
    | .error mishap => stop (.mishap mishap) : Watching Unit).result fs e = _
  rw [popped]
  rfl

theorem final_pop {stack : Stack} (popped : e.stack.pop = .ok stack) :
    pop.final fs e = e.stacked .pop stack := by
  change (match e.stack.pop with
    | .ok stack => modify (·.stacked .pop stack)
    | .error mishap => stop (.mishap mishap) : Watching Unit).final fs e = _
  rw [popped]
  rfl

theorem result_bind_of_ok {work : Watching α} {x : α} (h : work.result fs e = .ok x)
    (next : α → Watching β) :
    (work >>= next).result fs e = (next x).result fs (work.final fs e) := by
  change (ExceptT.bindCont (fun x => next x fs) (work.result fs e) (work.final fs e)).1 = _
  rw [h]
  rfl

theorem final_bind_of_ok {work : Watching α} {x : α} (h : work.result fs e = .ok x)
    (next : α → Watching β) : (work >>= next).final fs e = (next x).final fs (work.final fs e) := by
  change (ExceptT.bindCont (fun x => next x fs) (work.result fs e) (work.final fs e)).2 = _
  rw [h]
  rfl

theorem result_bind_of_error {work : Watching α} {stop : Stop} (h : work.result fs e = .error stop)
    (next : α → Watching β) : (work >>= next).result fs e = .error stop := by
  change (ExceptT.bindCont (fun x => next x fs) (work.result fs e) (work.final fs e)).1 = _
  rw [h]
  rfl

theorem final_bind_of_error {work : Watching α} {stop : Stop} (h : work.result fs e = .error stop)
    (next : α → Watching β) : (work >>= next).final fs e = work.final fs e := by
  change (ExceptT.bindCont (fun x => next x fs) (work.result fs e) (work.final fs e)).2 = _
  rw [h]
  rfl

/-- What is let through is what came of the work. -/
@[simp] theorem result_letThrough (work : Watching α) :
    (letThrough work).result fs e = work.result fs e := by
  rw [letThrough, result_bind_of_ok (result_attempt fs e work)]
  cases work.result fs e <;> rfl

theorem final_letThrough_of_ok {work : Watching α} {x : α} (ok : work.result fs e = .ok x) :
    (letThrough work).final fs e = work.final fs e := by
  rw [letThrough, final_bind_of_ok (result_attempt fs e work), ok]
  rfl

theorem final_letThrough_of_error {work : Watching α} {stop : Stop}
    (error : work.result fs e = .error stop) :
    (letThrough work).final fs e = (work.final fs e).alarmed
      (⟨stop.halt, .handler, .passed, fs, false⟩ :: (work.final fs e).alarms) := by
  rw [letThrough, final_bind_of_ok (result_attempt fs e work), error]
  rfl

end Watching

/-- A session under watch after some calls, one after the other. -/
def Watched.after (setup : Setup) (calls : List Session.Call) (e : Watched) : Watched :=
  calls.foldl (fun e call => (call.watching setup).final [] e) e

end ConfigTemplate
