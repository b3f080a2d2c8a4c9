/-!
# Options on a command line

The arguments of a command are options and operands in any order. An option has a long name after
two hyphens and perhaps a letter after one; its value is the rest of the argument or the next one.
Letters of options without a value may stand together. After two hyphens alone everything is an
operand.
-/

namespace ConfigTemplate.CommandLine

/-- An option that a command takes. -/
structure Switch where
  name : String
  letter : Option Char
  takesValue : Bool
  deriving DecidableEq, Repr

/-- An option without a value. -/
def flag (name : String) (letter : Option Char) : Switch := ⟨name, letter, false⟩

/-- An option with a value. -/
def valued (name : String) (letter : Option Char) : Switch := ⟨name, letter, true⟩

/-- What is wrong with arguments. -/
inductive UsageFault where
  | unknownOption (text : String)
  | valueMissing (option : String)
  | valueUnexpected (option : String)
  | operandMissing (name : String)
  | operandUnexpected (text : String)
  | notInteger (option text : String)
  | notLocation (option : String)
  | unknownCommand (name : String)
  deriving DecidableEq, Repr

/-- The wording of what is wrong. -/
def UsageFault.message : UsageFault → String
  | unknownOption text => s!"No such option: {text}"
  | valueMissing option => s!"Option '{option}' requires an argument."
  | valueUnexpected option => s!"Option '{option}' does not take a value."
  | operandMissing name => s!"Missing argument '{name}'."
  | operandUnexpected text => s!"Got unexpected extra argument ({text})"
  | notInteger option text =>
    s!"Invalid value for '{option}': '{text}' is not a valid integer."
  | notLocation option => s!"Invalid value for '{option}': embedded null byte"
  | unknownCommand name => s!"No such command '{name}'."

/-- The options and operands of a command, in order. An option without a value has an empty
one. -/
structure Arguments where
  options : List (String × String)
  operands : List String
  deriving DecidableEq, Repr

namespace Arguments

/-- Arguments with an option before them. -/
def withOption (name value : String) (a : Arguments) : Arguments :=
  { a with options := (name, value) :: a.options }

/-- Arguments with an operand before them. -/
def withOperand (text : String) (a : Arguments) : Arguments :=
  { a with operands := text :: a.operands }

/-- Whether an option is among the arguments. -/
def has (a : Arguments) (name : String) : Bool := a.options.any (·.1 = name)

/-- The value of an option; the last one counts. -/
def value? (a : Arguments) (name : String) : Option String :=
  (a.options.reverse.find? (·.1 = name)).map (·.2)

end Arguments

/-- What an argument says: options in a row, and one whose value is the next argument. -/
structure Reading where
  options : List (String × String)
  awaiting : Option String

/-- What a word after two hyphens says. -/
def readLong (specs : List Switch) (text : List Char) : Except UsageFault Reading :=
  let name := String.ofList (text.takeWhile (· != '='))
  match specs.find? (·.name = name) with
  | none => .error (.unknownOption ("--" ++ name))
  | some spec =>
    match text.dropWhile (· != '='), spec.takesValue with
    | _ :: value, true => .ok ⟨[(name, String.ofList value)], none⟩
    | _ :: _, false => .error (.valueUnexpected ("--" ++ name))
    | [], true => .ok ⟨[], some name⟩
    | [], false => .ok ⟨[(name, "")], none⟩

/-- What letters after a hyphen say: the first one with a value takes the letters after it. -/
def readLetters (specs : List Switch) : List Char → Except UsageFault Reading
  | [] => .ok ⟨[], none⟩
  | letter :: rest =>
    match specs.find? (·.letter = some letter) with
    | none => .error (.unknownOption (String.ofList ['-', letter]))
    | some spec =>
      if spec.takesValue then
        if rest.isEmpty then .ok ⟨[], some spec.name⟩
        else .ok ⟨[(spec.name, String.ofList rest)], none⟩
      else
        match readLetters specs rest with
        | .error fault => .error fault
        | .ok reading => .ok { reading with options := (spec.name, "") :: reading.options }

/-- What an argument says if it is an option. -/
def readOption? (specs : List Switch) (argument : String) : Option (Except UsageFault Reading) :=
  match argument.toList with
  | '-' :: '-' :: name => some (readLong specs name)
  | '-' :: letter :: rest => some (readLetters specs (letter :: rest))
  | _ => none

/-- The arguments of a command. `awaiting` is an option whose value comes next; `mixed` tells that
options may stand after operands. -/
def readFrom (specs : List Switch) (mixed : Bool) :
    Option String → List String → Except UsageFault Arguments
  | some name, [] => .error (.valueMissing ("--" ++ name))
  | some name, value :: rest => (readFrom specs mixed none rest).map (·.withOption name value)
  | none, [] => .ok ⟨[], []⟩
  | none, argument :: rest =>
    if argument = "--" then .ok ⟨[], rest⟩
    else
      match readOption? specs argument with
      | none =>
        if mixed then (readFrom specs mixed none rest).map (·.withOperand argument)
        else .ok ⟨[], argument :: rest⟩
      | some (.error fault) => .error fault
      | some (.ok reading) =>
        (readFrom specs mixed reading.awaiting rest).map fun a =>
          { a with options := reading.options ++ a.options }

/-- After two hyphens alone everything is an operand. -/
@[simp] theorem readFrom_hyphens (specs : List Switch) (mixed : Bool) (rest : List String) :
    readFrom specs mixed none ("--" :: rest) = .ok ⟨[], rest⟩ := by
  simp [readFrom]

/-- The arguments of a command. -/
def readArguments (specs : List Switch) (mixed : Bool) (words : List String) :
    Except UsageFault Arguments :=
  readFrom specs mixed none words

end ConfigTemplate.CommandLine
