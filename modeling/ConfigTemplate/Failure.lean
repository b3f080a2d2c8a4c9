import ConfigTemplate.Document
import ConfigTemplate.Log.Basic
import ConfigTemplate.Settings.Check
import ConfigTemplate.Text.Blank
import ConfigTemplate.Yaml.Fault

/-!
# Failures

The ways in which resolving a document fails. A failure is a cause; its kind decides which handler
may recover from it and with which status the program exits, and its wording and particulars
follow from the cause. Beside failures there are mishaps, which no handler sees: a path that is not
there at all, or a command runner that breaks down.
-/

namespace ConfigTemplate

/-- The kinds of failures. -/
inductive Failure.Kind where
  | configuration
  | invalidDocument
  | keyNotFound
  | ambiguousKey
  | circularDependency
  | shellCommandFailed
  | envVarMissing
  | substitutionLimit
  | parentResolutionFailure
  deriving DecidableEq, Repr

/-- Why no key was found. -/
inductive Failure.Missing where
  /-- No key matches. -/
  | unmatched
  /-- An array cannot be joined because of an element. -/
  | notScalar (element : String)
  /-- Another reason, given by its wording; an empty one says no more than `unmatched`. -/
  | stated (message : String)
  deriving DecidableEq, Repr

/-- A failure by its cause. -/
inductive Failure where
  | general (message : String)
  | configuration (fault : Settings.Fault)
  | document (fault : Document.Fault)
  | keyNotFound (key : String) (why : Failure.Missing)
  | ambiguousKey (key : String) (candidates : List String)
  /-- A key is referred to while it is being resolved. The keys being resolved are given in the
  order in which they were reached. -/
  | circular (key : String) (trail : List String)
  | commandFailed (command : String) (status : Int) (stderr : String)
  | variableMissing (name : String)
  | substitutionLimit (owner : String) (limit : Int) (placeholder : String)
  /-- A mishap while a reference was followed. -/
  | nested (owner placeholder : String) (cause : Option String)
  deriving Repr

namespace Failure

/-- The name of a kind. -/
def Kind.name : Kind → String
  | configuration => "Configuration"
  | invalidDocument => "InvalidDocument"
  | keyNotFound => "KeyNotFound"
  | ambiguousKey => "AmbiguousKey"
  | circularDependency => "CircularDependency"
  | shellCommandFailed => "ShellCommandFailed"
  | envVarMissing => "EnvVarMissing"
  | substitutionLimit => "SubstitutionLimit"
  | parentResolutionFailure => "ParentResolutionFailure"

/-- All kinds. -/
def Kind.all : List Kind :=
  [configuration, invalidDocument, keyNotFound, ambiguousKey, circularDependency,
    shellCommandFailed, envVarMissing, substitutionLimit, parentResolutionFailure]

/-- The kind of a name. -/
def Kind.ofName? (name : String) : Option Kind := all.find? fun kind => kind.name = name

/-- The status with which the program exits on a failure of a kind. -/
def Kind.exitCode : Kind → Nat
  | parentResolutionFailure => 1
  | configuration => 2
  | invalidDocument => 3
  | ambiguousKey => 5
  | keyNotFound => 6
  | shellCommandFailed => 7
  | envVarMissing => 8
  | substitutionLimit => 9
  | circularDependency => 12

/-- The kind of a failure. -/
def kind : Failure → Kind
  | general _ => .parentResolutionFailure
  | configuration _ => .configuration
  | document _ => .invalidDocument
  | keyNotFound .. => .keyNotFound
  | ambiguousKey .. => .ambiguousKey
  | circular .. => .circularDependency
  | commandFailed .. => .shellCommandFailed
  | variableMissing _ => .envVarMissing
  | substitutionLimit .. => .substitutionLimit
  | nested .. => .parentResolutionFailure

/-- The status with which the program exits. -/
def exitCode (failure : Failure) : Nat := failure.kind.exitCode

/-- The wording for a key that was not found. -/
def missingMessage (key : String) : Missing → String
  | .unmatched | .stated "" => s!"Key not found: '{key}'"
  | .notScalar element => s!"Cannot join '{key}': element '{element}' is not a scalar"
  | .stated message => message

/-- The wording of a failure. -/
def message : Failure → String
  | general message => message
  | configuration fault => fault.message
  | document fault => fault.message
  | keyNotFound key why => missingMessage key why
  | ambiguousKey key candidates =>
    s!"Ambiguous key '{key}' matches {candidates.length} keys: " ++
      String.intercalate ", " candidates ++
      "\n  Suggestion: Use a longer suffix or the full path"
  | circular key trail =>
    "Circular dependency detected: " ++ String.intercalate " -> " (trail ++ [key])
  | commandFailed command status stderr =>
    let shown := Text.trimmed stderr
    s!"Shell command failed with exit status {status}: {command}" ++
      (if shown = "" then "" else s!"\n  stderr: {shown}")
  | variableMissing name => s!"Environment variable is not set: {name}"
  | substitutionLimit owner limit placeholder =>
    s!"Gave up on '{owner}' after {limit} substitutions, last placeholder: {placeholder}\n" ++
      "  Suggestion: Check for a command or variable whose output contains a placeholder"
  | nested owner placeholder cause =>
    s!"Failed to resolve nested template {placeholder} in key: {owner}" ++
      match cause with
      | none => ""
      | some cause => s!" ({cause})"

/-- The particulars of a failure, by name. -/
def details : Failure → List (String × Json)
  | general _ | configuration _ => []
  | document fault => fault.details
  | keyNotFound key _ => [("key", .str key)]
  | ambiguousKey key candidates =>
    [("key", .str key), ("candidates", .arr (candidates.map .str))]
  | circular key trail => [("key", .str key), ("stack", .arr (trail.map .str))]
  | commandFailed command status stderr =>
    [("command", .str command), ("returncode", .int status), ("stderr", .str stderr)]
  | variableMissing name => [("name", .str name)]
  | substitutionLimit owner limit placeholder =>
    [("key", .str owner), ("limit", .int limit), ("placeholder", .str placeholder)]
  | nested owner placeholder _ => [("key", .str owner), ("placeholder", .str placeholder)]

/-- The part of a trail that a key closes to a loop, from the key's first place on; all of it when
the key is not on it. -/
def cycle (key : String) (trail : List String) : List String :=
  let loop := trail.dropWhile (· != key)
  (if loop.isEmpty then trail else loop) ++ [key]

/-- A reference to a key. -/
def reference (key : String) : String := "$\x7b" ++ key ++ "\x7d"

/-- The lines of a trail, numbered from one. -/
def trailLines (trail : List String) : List String :=
  trail.zipIdx.map fun (key, i) => s!"  {i + 1}. " ++ reference key

/-- The report of a loop: the trail in order of discovery and the reference that closes it. -/
def cycleReport (key : String) (trail : List String) : String :=
  let rule := String.ofList (List.replicate 48 '-')
  String.intercalate "\n"
    ([rule, "ERROR: CIRCULAR DEPENDENCY DETECTED",
      "The key '" ++ reference key ++ "' creates a loop.", rule,
      "Resolution Path (Order of discovery):"] ++ trailLines trail ++
      ["  >> " ++ reference key ++ " (BACK-REFERENCE)", rule])

end Failure

/-- What goes wrong outside the failures that handlers see. -/
inductive Mishap where
  /-- There is no value at a path. -/
  | unknownPath (path : String)
  /-- There is no setting of a name. -/
  | unknownSetting (key : String)
  /-- Nothing is being resolved. -/
  | emptyTrail
  /-- A command runner broke down. -/
  | runner (message : String)
  /-- A command holds a character that no command line can hold. -/
  | nullCharacter
  /-- A scalar of a settings file has the shape of a type but no value of it, such as a day that is
  not in the calendar. -/
  | scalar (fault : Yaml.Scalar.Fault)
  /-- A file is no text. -/
  | notText (fault : Text.Encoding.Fault)
  /-- A location does not lead to a file. -/
  | file (fault : Files.Fault) (location : String)
  /-- The log cannot be set up. -/
  | log (fault : Log.Fault)
  /-- An integer has too many digits to be read or written. -/
  | digits (excess : Decimal.Excess)
  /-- A document is to be indented by more blanks than a text can have. -/
  | indentRange
  /-- A document is to be indented by more blanks than there is memory for. -/
  | memory
  /-- Too many calls are at work, one inside the other. -/
  | tooDeep
  deriving Repr

/-- The wording of a mishap. -/
def Mishap.message : Mishap → String
  | unknownPath path => Text.quoted path
  | unknownSetting key => Text.quoted s!"Setting '{key}' not found"
  | emptyTrail => "pop from empty list"
  | runner message => message
  | nullCharacter => "embedded null byte"
  | scalar fault => fault.message
  | notText fault => fault.message
  | file fault location => fault.message location
  | log fault => fault.message
  | digits excess => excess.message
  | indentRange => "cannot fit 'int' into an index-sized integer"
  | memory => ""
  | tooDeep => "maximum recursion depth exceeded"

/-- What stops a computation. -/
inductive Halt where
  | failure (f : Failure)
  | mishap (m : Mishap)
  deriving Repr

/-- What stops a computation at a fault of a document. Too many digits are a mishap. -/
def Document.Fault.halt : Document.Fault → Halt
  | digits excess => .mishap (.digits excess)
  | fault => .failure (.document fault)

/-- The wording of what stopped a computation. -/
def Halt.message : Halt → String
  | failure f => f.message
  | mishap m => m.message

end ConfigTemplate
