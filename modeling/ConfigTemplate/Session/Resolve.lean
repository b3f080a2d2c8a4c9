import ConfigTemplate.Json.Printer
import ConfigTemplate.Placeholder
import ConfigTemplate.Session.Basic
import ConfigTemplate.Session.Setup

/-!
# Resolving

A value is resolved by substituting its placeholders one after the other. A reference is replaced
by the value that it leads to, which is resolved first; a command by its output; a variable by its
value. A key that was resolved once keeps its value. A key that is reached again while it is being
resolved closes a loop.

Every resolution inside another one is given the keys that are being resolved as a trail and a
number, which falls with each key that is entered and with each call that a handler makes. To begin
with it is the number of keys of the document and of the calls that handlers may have at work inside
one another, so resolution ends.
-/

namespace ConfigTemplate

/-- The text that takes the place of a reference to a value: a string as it is, another value as
JSON. -/
def Json.spliced (value : Json) : String := value.text?.getD (value.text .asciiLine)

namespace Session

/-- How calls on the session are answered while some keys are being resolved. -/
structure Enter where
  answer : Call → Action Json

/-- The value of a key. -/
abbrev Enter.value (enter : Enter) (key : String) : Action Json := enter.answer (.resolveKey key)

instance : CoeFun Enter fun _ => String → Action Json := ⟨Enter.value⟩

/-- Take a result or stop with its failure. -/
def orFail {α : Type} : Except Failure α → Action α
  | .ok value => pure value
  | .error failure => Action.fail failure

/-- Take a result, or stop with a given failure where nothing was found and with its own failure
otherwise. -/
def orMissing {α : Type} (missing : Failure) : Except Failure α → Action α
  | .ok value => pure value
  | .error (.keyNotFound ..) => Action.fail missing
  | .error failure => Action.fail failure

/-- The texts of some keys' values, without the empty ones. -/
def elementTexts (enter : Enter) : List String → Action (List String)
  | [] => pure []
  | key :: rest => do
    let value ← enter key
    let others ← elementTexts enter rest
    return if value.spliced = "" then others else value.spliced :: others

/-- The elements of an array with a separator between them. Where there is no such array, or none
of its elements has a text, the key that was missing remains missing. -/
def joinElements (setup : Setup) (enter : Enter) (missing : Failure) (join : Join) :
    Action String := do
  let flat := (← get).flat
  let found ← orMissing missing (flat.pickArray setup.options.uniqueMatch join.path)
  Action.notePick join.path found
  let paths ← orMissing missing (flat.elementPaths join.path found.chosen)
  let texts ← elementTexts enter paths
  if texts.isEmpty then Action.fail missing
  Action.note (.joined texts.length join)
  return String.intercalate join.separator texts

/-- Carry out a reply. -/
def consult (enter : Enter) : Reply → Action String
  | .answer text => pure text
  | .stop halt => throw halt
  | .look next => do consult enter (next (← get))
  | .ask call next => do consult enter (next (← enter.answer call))
  | .attempt call next => do consult enter (next (← Action.attempt (enter.answer call)))

/-- What a handler makes of a failure. -/
def applyHandler (setup : Setup) (enter : Enter) (handler : Handler) (failure : Failure) :
    Action String :=
  match handler, failure with
  | .joinElements, .keyNotFound key _ =>
    match Join.ofExpression? key with
    | some join => joinElements setup enter failure join
    | none => Action.fail failure
  | .joinElements, _ => Action.fail failure
  | .reportLoop, .circular key trail => do
    Action.note (.loopReported key trail)
    Action.fail failure
  | .reportLoop, _ => Action.fail failure
  | .reply respond, _ => consult enter (respond failure)

/-- Offer a failure to the handler of its kind. -/
def recover (setup : Setup) (enter : Enter) (failure : Failure) : Action String :=
  match setup.registry.get? failure.kind with
  | some handler => applyHandler setup enter handler failure
  | none => Action.fail failure

/-- The value that a reference leads to. -/
def follow (setup : Setup) (enter : Enter) (expression : String) : Action Json := do
  match (← get).flat.resolve setup.options.uniqueMatch expression with
  | .ok found =>
    Action.notePick expression found
    enter found.chosen
  | .error (.keyNotFound key why) => return .str (← recover setup enter (.keyNotFound key why))
  | .error failure => Action.fail failure

/-- The kinds of placeholders that are substituted. -/
def kinds (setup : Setup) : List Placeholder.Kind :=
  if setup.options.external then Placeholder.Kind.all else Placeholder.Kind.internal

/-- The name of a value's owner, or a stand-in for a value that has none. -/
def ownerOr (standIn : String) : Option String → String
  | none => standIn
  | some owner => if owner = "" then standIn else owner

/-- The output of a command of a text. -/
def runCommand (setup : Setup) (source command : String) : Action String := do
  let before := (← get).journal.commands
  Action.note (.ran source command setup.host.announces)
  match setup.host.run before command with
  | .output text => return text
  | .failed status stderr => Action.fail (.commandFailed command status stderr)
  | .broken mishap => Action.breakOff mishap

/-- The value of an environment variable; an empty one counts as missing. -/
def readVariable (host : Host) (name : String) : Except Failure String :=
  match host.envVar? name with
  | some value => if value = "" then .error (.variableMissing name) else .ok value
  | none => .error (.variableMissing name)

/-- The text that takes the place of a placeholder. A mishap on the way to a reference's value is
a failure of the value that holds the reference. -/
def replacement (setup : Setup) (enter : Enter) (owner : Option String) (source : String)
    (p : Placeholder) : Action String := do
  match p.kind with
  | .reference =>
    match ← Action.attempt (follow setup enter (Text.trimmed p.payload)) with
    | .ok value => return value.spliced
    | .error (.failure failure) => Action.fail failure
    | .error (.mishap mishap) =>
      Action.fail (.nested (ownerOr "<value>" owner) p.text (some mishap.message))
  | .command => runCommand setup source p.payload
  | .envVar =>
    Action.note (.read p.payload)
    orFail (readVariable setup.host p.payload)

/-- A text with its placeholders substituted. The number bounds the substitutions; a replacement
that leaves the text as it was ends them. -/
def substitute (setup : Setup) (enter : Enter) (owner : Option String) :
    Nat → String → Action String
  | 0, text =>
    match Placeholder.scan (kinds setup) text with
    | none => pure text
    | some p =>
      Action.fail (.substitutionLimit (ownerOr text owner) setup.options.limit p.text)
  | count + 1, text =>
    match Placeholder.scan (kinds setup) text with
    | none => pure text
    | some p => do
      let new ← replacement setup enter owner text p
      Action.note (.replaced text p new)
      let updated := p.splice text new
      if updated = text then
        Action.note (.stalled (ownerOr text owner) p.text)
        return text
      else substitute setup enter owner count updated

/-- A text with its placeholders substituted, within the limit of the session. -/
def substituteAll (setup : Setup) (enter : Enter) (owner : Option String) (text : String) :
    Action String :=
  substitute setup enter owner setup.options.limit.toNat text

/-- Note the placeholders that a value keeps when only references are resolved. -/
def noteWithheld (setup : Setup) (key : String) (value : Json) : Action Unit :=
  match value with
  | .str text =>
    if setup.options.external then pure ()
    else (Placeholder.findAll text).forM fun p => Action.note (.withheld key p.text)
  | _ => pure ()

/-- The resolved form of the value of a key that was entered. -/
def resolveValue (setup : Setup) (enter : Enter) (key : String) : Action Json := do
  match (← get).flat.get? key with
  | none => Action.breakOff (.unknownPath key)
  | some (.str text) =>
    let text ← substituteAll setup enter (some key) text
    Action.store key (.str text)
    return .str text
  | some value => return value

/-- Resolve a key off the trail: mark it, resolve its value, and mark it again by the result. -/
def enterKey (setup : Setup) (enter : Enter) (key : String) : Action Json := do
  Action.mark key .inProgress
  Action.note (.entered key)
  match ← Action.attempt (resolveValue setup enter key) with
  | .error halt =>
    Action.mark key .failed
    Action.note (.failed key)
    throw halt
  | .ok value =>
    Action.mark key .resolved
    Action.note (.settled key value)
    noteWithheld setup key value
    return value

/-- Whether a value has a placeholder of some kinds. -/
def isPending (kinds : List Placeholder.Kind) : Json → Bool
  | .str text => Placeholder.occurs kinds text
  | _ => false

/-- The keys with placeholders in their values that are not resolved yet, in order. -/
def pending (setup : Setup) (s : Session) : List String :=
  (s.flat.entries.filter fun (key, value) =>
    s.mark key != .resolved && isPending (kinds setup) value).map (·.1)

/-- Resolve keys one after the other. -/
def resolveEach (enter : Enter) : List String → Action Unit
  | [] => pure ()
  | key :: rest => do
    let _ ← enter key
    resolveEach enter rest

/-- Resolve every value that has placeholders. -/
def resolvePending (setup : Setup) (enter : Enter) : Action Unit := do
  let keys := pending setup (← get)
  if keys.isEmpty then Action.note .nothingPending
  else
    Action.note (.pendingFound keys.length)
    resolveEach enter keys

/-- Resolve a key while the keys of a trail are being resolved. `deeper` answers calls on a longer
trail. -/
def resolveStep (setup : Setup) (deeper : Trail → Enter) (trail : Trail) (key : String) :
    Action Json := do
  let s ← get
  if s.mark key = .resolved then
    match s.flat.get? key with
    | some value => return value
    | none => Action.breakOff (.unknownPath key)
  else
    match trail.push key with
    | .error failure => return .str (← recover setup (deeper trail) failure)
    | .ok longer => enterKey setup (deeper longer) key

/-- Answer a call while the keys of a trail are being resolved. The call is answered with a value,
where it gives one. -/
def answerStep (setup : Setup) (deeper : Trail → Enter) (trail : Trail) : Enter where
  answer
    | .resolveKey key => resolveStep setup deeper trail key
    | .lookup expression => follow setup (deeper trail) expression
    | .expand text => do return .str (← substituteAll setup (deeper trail) none text)
    | .resolveAll => do
      resolvePending setup (deeper trail)
      return .null

/-- No call is answered any more. -/
def exhausted : Enter := ⟨fun _ => Action.breakOff .tooDeep⟩

/-- How calls are answered while the keys of a trail are being resolved. The number is how many keys
may be entered and calls be made inside one another. -/
def resolveOn (setup : Setup) : Nat → Trail → Enter
  | 0 => answerStep setup fun _ => exhausted
  | room + 1 => answerStep setup (resolveOn setup room)

/-- How calls are answered while no key is being resolved. There is room for each key of the
document and for the calls of handlers. -/
def atRest (setup : Setup) : Enter where
  answer call := do
    let room := (← get).flat.size + setup.registry.depth
    (resolveOn setup room .empty).answer call

/-- The value of a key, resolved. -/
def resolveKey (setup : Setup) (key : String) : Action Json := atRest setup key

/-- The value that an expression leads to: a path, a shorthand or a join expression. -/
def lookup (setup : Setup) (expression : String) : Action Json :=
  follow setup (atRest setup) expression

/-- A text that belongs to no key, with its placeholders substituted. -/
def expand (setup : Setup) (text : String) : Action String :=
  substituteAll setup (atRest setup) none text

/-- Resolve every value that has placeholders. -/
def resolveAll (setup : Setup) : Action Unit := resolvePending setup (atRest setup)

end Session

end ConfigTemplate
