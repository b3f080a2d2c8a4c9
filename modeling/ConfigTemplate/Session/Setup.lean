import ConfigTemplate.Entries
import ConfigTemplate.Session.Basic

/-!
# The setup of a session

What a session works with: its options, the host that runs commands and holds environment
variables, and the handlers of failures. A host may answer a command in the light of the commands
that were run before it.

A handler is given the session along with the failure. It may look at it, and it may make calls on
it, which are answered while the keys that are being resolved remain so. Where a call is stopped the
handler is stopped with it, unless it attempted the call: then that is for the handler to see, and
it may go on.
-/

namespace ConfigTemplate

/-- What becomes of a command. -/
inductive Outcome where
  | output (text : String)
  | failed (status : Int) (stderr : String)
  | broken (mishap : Mishap)
  deriving Repr

/-- What commands and environment variables are answered by. -/
structure Host where
  /-- The outcome of a command after the commands before it, in order. -/
  run : List String → String → Outcome
  /-- The value of an environment variable. -/
  envVar? : String → Option String
  /-- Whether the log tells of commands. -/
  announces : Bool

/-- How a session resolves. -/
structure Options where
  /-- Whether a shorthand that matches several paths is a failure. -/
  uniqueMatch : Bool
  /-- Whether commands are run and variables read; without it only references are resolved. -/
  external : Bool
  /-- The number of substitutions in one value. -/
  limit : Int
  deriving DecidableEq, Repr

/-- A limit of a thousand substitutions, unique shorthands, commands and variables. -/
def Options.standard : Options := ⟨true, true, 1000⟩

/-- A call on a session: the resolution of a key, of an expression, of a text, or of everything. -/
inductive Session.Call where
  | resolveKey (key : String)
  | lookup (expression : String)
  | expand (text : String)
  | resolveAll
  deriving DecidableEq, Repr

/-- What a handler makes of a failure, one thing after the other. -/
inductive Reply where
  /-- Answer with a text. -/
  | answer (text : String)
  /-- Fail. -/
  | stop (halt : Halt)
  /-- Look at the session. -/
  | look (next : Session → Reply)
  /-- Make a call on the session, and go on with its answer. -/
  | ask (call : Session.Call) (next : Json → Reply)
  /-- Make a call on the session, and go on with what comes of it, be it a stop. -/
  | attempt (call : Session.Call) (next : Except Halt Json → Reply)

/-- What recovers from a failure. -/
inductive Handler where
  /-- Take a missing key for a join expression. -/
  | joinElements
  /-- Report a loop, then fail. -/
  | reportLoop
  /-- Reply to the failure. -/
  | reply (respond : Failure → Reply)

/-- A handler that answers with a text. -/
def Handler.fixed (text : String) : Handler := .reply fun _ => .answer text

/-- The handlers of failures by kind. -/
structure Registry where
  entries : List (Failure.Kind × Handler)
  /-- The number of calls that handlers may have at work, one inside the other. -/
  depth : Nat

namespace Registry

/-- No handlers. -/
def empty : Registry := ⟨[], 100⟩

/-- Register a handler for a kind, in place of a present one. -/
def register (registry : Registry) (kind : Failure.Kind) (handler : Handler) : Registry :=
  { registry with entries := Entries.put kind handler registry.entries }

/-- The handler of a kind. -/
def get? (registry : Registry) (kind : Failure.Kind) : Option Handler :=
  Entries.get? kind registry.entries

/-- Whether a kind has a handler. -/
def contains (registry : Registry) (kind : Failure.Kind) : Bool := (registry.get? kind).isSome

/-- The number of kinds with a handler. -/
def size (registry : Registry) : Nat := registry.entries.length

/-- The usual handlers: missing keys may be join expressions, and loops are reported. -/
def standard : Registry :=
  (empty.register .keyNotFound .joinElements).register .circularDependency .reportLoop

@[simp] theorem get?_register_self (registry : Registry) (kind : Failure.Kind)
    (handler : Handler) : (registry.register kind handler).get? kind = some handler :=
  Entries.get?_put_self ..

end Registry

/-- What a session works with. -/
structure Setup where
  options : Options
  host : Host
  registry : Registry

end ConfigTemplate
