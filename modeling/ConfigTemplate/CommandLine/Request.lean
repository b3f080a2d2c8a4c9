import ConfigTemplate.CommandLine.Options
import ConfigTemplate.Text.Blank
import ConfigTemplate.Text.Digit

/-!
# Requests

What the arguments of the program ask for: one of its commands, its version, or help. Help is given
wherever options are well-formed, whatever else is missing.
-/

namespace ConfigTemplate.CommandLine

/-- How a document is resolved. -/
structure Manner where
  verbose : Bool
  debug : Bool
  dryRun : Bool
  allowAmbiguous : Bool
  /-- The settings file. -/
  config : Option String
  deriving DecidableEq, Repr

/-- A command of the program. The document is in a file, or comes from the input for a hyphen. -/
inductive Command where
  /-- Resolve a document, to a file or to the output. -/
  | resolve (document : String) (manner : Manner) (target : Option String) (indent : Option Int)
  /-- Resolve a single key. -/
  | get (document key : String) (manner : Manner)
  /-- Show the flat form, or its entries that are still to be resolved. -/
  | flatten (document : String) (pendingOnly : Bool)
  deriving DecidableEq, Repr

/-- What the arguments ask for. -/
inductive Request where
  | version
  | help
  | run (command : Command)
  deriving DecidableEq, Repr

/-- White space around an integer. -/
def isSpace (c : Char) : Bool := Text.isBlank c && !('\x1c' ≤ c && c ≤ '\x1f')

/-- The integer that a text writes: digits with single underscores between them after a sign,
between white space. A point and zeros may follow the digits. -/
def integer? (text : String) : Option Int :=
  let (negative, body) : Bool × List Char :=
    match Text.dropEndWhile isSpace (text.toList.dropWhile isSpace) with
    | '-' :: rest => (true, rest)
    | '+' :: rest => (false, rest)
    | rest => (false, rest)
  let groups := (body.takeWhile (· != '.')).splitOn '_'
  let zeros := (body.dropWhile (· != '.')).drop 1
  if (groups.all fun group => !group.isEmpty && group.all Char.isDigit) && zeros.all (· = '0') then
    let n : Int := Text.digitsValue groups.flatten
    some (if negative then -n else n)
  else none

/-- The option for help, which every command has. -/
def helpOption : Switch := flag "help" none

/-- The options of the program itself. -/
def programOptions : List Switch := [flag "version" none, helpOption]

/-- The options for how a document is resolved. -/
def mannerOptions : List Switch :=
  [flag "verbose" (some 'v'), flag "debug" (some 'd'), flag "dry-run" none,
    flag "allow-ambiguous" none, valued "config" (some 'c')]

/-- The options of resolving a document. -/
def resolveOptions : List Switch :=
  helpOption :: mannerOptions ++ [valued "output" (some 'o'), valued "indent" none]

/-- The options of resolving a key. -/
def getOptions : List Switch := helpOption :: mannerOptions

/-- The options of flattening. -/
def flattenOptions : List Switch := [helpOption, flag "pending" (some 'p')]

/-- The only operand. -/
def operand : List String → Except UsageFault String
  | [document] => .ok document
  | [] => .error (.operandMissing "FILE")
  | _ :: text :: _ => .error (.operandUnexpected text)

/-- The two operands: a document and a key. -/
def operandPair : List String → Except UsageFault (String × String)
  | [document, key] => .ok (document, key)
  | [] => .error (.operandMissing "FILE")
  | [_] => .error (.operandMissing "KEY")
  | _ :: _ :: text :: _ => .error (.operandUnexpected text)

/-- The indentation that the options ask for. -/
def indentOf (a : Arguments) : Except UsageFault (Option Int) :=
  match a.value? "indent" with
  | none => .ok none
  | some text =>
    match integer? text with
    | some n => .ok (some n)
    | none => .error (.notInteger "--indent" text)

/-- The location that an option names, which no null character may be part of. -/
def locationOf (a : Arguments) (name : String) : Except UsageFault (Option String) :=
  match a.value? name with
  | none => .ok none
  | some text =>
    if text.contains '\x00' then .error (.notLocation ("--" ++ name)) else .ok (some text)

/-- How the options say a document is resolved. -/
def Manner.ofArguments (a : Arguments) : Except UsageFault Manner := do
  return {
    verbose := a.has "verbose"
    debug := a.has "debug"
    dryRun := a.has "dry-run"
    allowAmbiguous := a.has "allow-ambiguous"
    config := ← locationOf a "config" }

/-- The command that the arguments of resolving a document ask for. -/
def resolveCommand (a : Arguments) : Except UsageFault Command := do
  let document ← operand a.operands
  let indent ← indentOf a
  let target ← locationOf a "output"
  return .resolve document (← Manner.ofArguments a) target indent

/-- The command that the arguments of resolving a key ask for. -/
def getCommand (a : Arguments) : Except UsageFault Command := do
  let (document, key) ← operandPair a.operands
  return .get document key (← Manner.ofArguments a)

/-- The command that the arguments of flattening ask for. -/
def flattenCommand (a : Arguments) : Except UsageFault Command := do
  return .flatten (← operand a.operands) (a.has "pending")

/-- What the arguments after the name of a command ask for. -/
def requestOf (specs : List Switch) (command : Arguments → Except UsageFault Command)
    (words : List String) : Except UsageFault Request :=
  match readArguments specs true words with
  | .error fault => .error fault
  | .ok a => if a.has "help" then .ok .help else (command a).map .run

/-- What the program's own options ask for; the first one counts. -/
def Request.ofOptions? : List (String × String) → Option Request
  | ("version", _) :: _ => some .version
  | _ :: _ => some .help
  | [] => none

/-- What words ask for in which no command comes first. They may still begin with the program's own
options. -/
def Request.ofOtherWords (words : List String) : Except UsageFault Request :=
  match readArguments programOptions false words with
  | .error fault => .error fault
  | .ok a =>
    match ofOptions? a.options with
    | some request => .ok request
    | none => .error (.unknownCommand (words.headD ""))

/-- What the words after the program's own options ask for. -/
def Request.ofCommandWords : List String → Except UsageFault Request
  | [] => .ok .help
  | "resolve" :: words => requestOf resolveOptions resolveCommand words
  | "get" :: words => requestOf getOptions getCommand words
  | "flatten" :: words => requestOf flattenOptions flattenCommand words
  | words => ofOtherWords words

/-- What the arguments of the program ask for. -/
def Request.ofWords (words : List String) : Except UsageFault Request :=
  match readArguments programOptions false words with
  | .error fault => .error fault
  | .ok a =>
    match ofOptions? a.options with
    | some request => .ok request
    | none => ofCommandWords a.operands

end ConfigTemplate.CommandLine
