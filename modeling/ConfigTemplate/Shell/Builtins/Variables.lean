import ConfigTemplate.Shell.Builtins.Basic
import ConfigTemplate.Shell.Expand

/-!
# Commands for variables and options

The commands that change variables and what is known of them, the options of the shell and its
arguments.
-/

namespace ConfigTemplate.Shell.Builtins

open Text (Bytes)
open Run (bytesOf textOf)

/-- The name and the value of an assignment; no value without an equals sign. -/
def assignment (argument : Bytes) : String × Option Bytes :=
  let name := argument.takeWhile (· != 61)
  let value := argument.drop (name.length + 1)
  (textOf name, if name.length < argument.length then some value else none)

/-- Stop if a text is no name of a variable. -/
def demandName (name : String) : Run Unit :=
  if isName name then pure () else Run.fail s!"{name}: bad variable name"

/-- The variables in order of their names. -/
def sortedBindings : Run (List (String × Variable)) := do
  return (← Run.process).bindings.mergeSort fun a b => !(b.1 < a.1)

/-- Show variables, each after a word. -/
def showVariables (word : String) (shows : Variable → Bool) : Run Nat := do
  for (name, held) in ← sortedBindings do
    if shows held then
      let value : Bytes :=
        match held.value with
        | some value => 61 :: quoted value
        | none => []
      Run.write 1 (bytesOf (word ++ name) ++ value ++ [10])
  return 0

/-- Set variables and change what is known of them, or show those of which it is so. -/
def mark (word : String) (change : Variable → Variable) (shows : Variable → Bool) : Program :=
  fun arguments => do
    let (found, names) ← options ['p'] [] arguments
    if !found.isEmpty || names.isEmpty then return ← showVariables (word ++ " ") shows
    for argument in names do
      let (name, value) := assignment argument
      demandName name
      match value with
      | some bytes => Run.assign name bytes
      | none => pure ()
      Run.adjust name change
    return 0

/-- Let programs see variables. -/
def exportVariables : Program :=
  mark "export" ({ · with exported := true }) Variable.exported

/-- Let variables not change any more. -/
def fixVariables : Program := mark "readonly" ({ · with fixed := true }) Variable.fixed

/-- Remove variables or functions. -/
def unset : Program := fun arguments => do
  let (found, names) ← options ['v', 'f'] [] arguments
  let functions := (found.getLast?.map (·.1)) = some 'f'
  for argument in names do
    if functions then
      let name := textOf argument
      Run.modifyProcess fun p => { p with functions := p.functions.filter (·.1 != name) }
    else
      let (name, _) := assignment argument
      demandName name
      Run.removeVariable name
  return 0

/-- Make variables, or the options, a function's own. -/
def makeLocal : Program := fun arguments => do
  if (← Run.process).frames.isEmpty then Run.fail "not in a function"
  for argument in arguments do
    if argument = [45] then
      Run.modifyProcess fun p =>
        match p.frames with
        | frame :: rest =>
          { p with frames := { frame with options := some (frame.options.getD p.options) } :: rest }
        | [] => p
    else
      let (name, value) := assignment argument
      demandName name
      if value.isSome then Run.demandFree name
      Run.makeLocal name
      match value with
      | some bytes => Run.assign name bytes
      | none => pure ()
  return 0

/-- The options by name and letter; two of them have no letter of their own. -/
def optionNames : List (String × Char) :=
  [("errexit", 'e'), ("noglob", 'f'), ("ignoreeof", 'I'), ("interactive", 'i'), ("monitor", 'm'),
    ("noexec", 'n'), ("stdin", 's'), ("xtrace", 'x'), ("verbose", 'v'), ("vi", 'V'),
    ("emacs", 'E'), ("noclobber", 'C'), ("allexport", 'a'), ("notify", 'b'), ("nounset", 'u'),
    ("privileged", 'p'), ("nolog", '\x01'), ("debug", '\x02')]

/-- The letters of options that can be given. -/
def optionLetters : List Char := (optionNames.map (·.2)).filter (' ' < ·)

/-- Turn an option on or off. -/
def turn (on : Bool) (letter : Char) : Run Unit :=
  Run.modifyProcess fun p =>
    let others := p.options.filter (· != letter)
    { p with options := if on then letter :: others else others }

/-- Show the options, as a table or as commands. -/
def showOptions (asTable : Bool) : Run Unit := do
  let p ← Run.process
  if asTable then Run.write 1 (bytesOf "Current option settings\n")
  for (name, letter) in optionNames do
    let on := p.options.contains letter
    if asTable then
      let blanks := String.ofList (List.replicate (16 - name.length) ' ')
      let word := if on then "on" else "off"
      Run.write 1 (bytesOf s!"{name}{blanks}{word}\n")
    else
      let sign := if on then "-" else "+"
      Run.write 1 (bytesOf s!"set {sign}o {name}\n")

/-- Set options by letters; a name may follow. What is left of the arguments comes back. -/
def turnLetters (on : Bool) : List Char → List Bytes → Run (List Bytes)
  | [], rest => return rest
  | letter :: more, rest => do
    if letter = 'o' then
      match rest with
      | [] =>
        showOptions on
        turnLetters on more []
      | name :: rest =>
        match Entries.get? (textOf name) optionNames with
        | some letter => turn on letter
        | none => Run.fail s!"Illegal option -o {textOf name}"
        turnLetters on more rest
    else if optionLetters.contains letter then
      turn on letter
      turnLetters on more rest
    else Run.fail s!"Illegal option -{letter}"

/-- Set options by arguments. What is left is nothing, or the shell's arguments from then on. -/
def turnAll : Nat → List Bytes → Run (Option (List Bytes))
  | 0, _ => return none
  | fuel + 1, arguments => do
    match arguments with
    | [] => return none
    | [45] :: rest =>
      turn false 'x'
      turn false 'v'
      return if rest.isEmpty then none else some rest
    | [45, 45] :: rest => return some rest
    | (45 :: letters) :: rest => turnAll fuel (← turnLetters true (charsOf letters) rest)
    | (43 :: letters) :: rest => turnAll fuel (← turnLetters false (charsOf letters) rest)
    | arguments => return some arguments

/-- Complain where jobs are to be controlled: there is no terminal to do it from. -/
def refuseControl : Run Unit := do
  if (← Run.process).options.contains 'm' then
    Run.complain "can't access tty; job control turned off"
    turn false 'm'

/-- Set options and arguments, or show all variables. -/
def set : Program := fun arguments => do
  if arguments.isEmpty then return ← showVariables "" fun held => held.value.isSome
  let rest ← turnAll (arguments.length + 1) arguments
  refuseControl
  match rest with
  | some arguments =>
    Run.modifyProcess ({ · with arguments := arguments, letterIndex := 1, letterPlace := 0 })
  | none => pure ()
  return 0

/-- One step through the option letters of arguments: the letter that was found, what becomes of its
value, a complaint, the number of the argument to go on with, and the place within the argument
before it; zero where no letter of that is left. -/
structure LetterStep where
  letter : Option Char
  /-- The value; none to remove the one from before. -/
  value : Option Bytes
  complaint : Option String
  index : Nat
  place : Nat

/-- What becomes of a letter at a place of an argument that is the one before an index. -/
def letterAt (wanted : List Char) (arguments : List Bytes) (argument : Bytes) (index place : Nat) :
    LetterStep :=
  let isQuiet := wanted.head? = some ':'
  let letter := Char.ofNat (argument.getD place 0).toNat
  let after := place + 1
  let refused (sign : Char) (complaint : String) (place : Nat) : LetterStep :=
    if isQuiet then ⟨some sign, some (bytesOf (String.singleton letter)), none, index, place⟩
    else ⟨some '?', none, some complaint, index, place⟩
  let next := if after < argument.length then after else 0
  match wanted.idxOf? letter with
  | none => refused '?' s!"Illegal option -{letter}" next
  | some spot =>
    if wanted[spot + 1]? = some ':' then
      if after < argument.length then ⟨some letter, some (argument.drop after), none, index, 0⟩
      else
        match arguments[index - 1]? with
        | some value => ⟨some letter, some value, none, index + 1, 0⟩
        | none => refused ':' s!"No arg for -{letter} option" 0
    else ⟨some letter, some [], none, index, next⟩

/-- Find the next option letter; none at an argument that is no option. -/
def nextLetter? (wanted : List Char) (arguments : List Bytes) (index place : Nat) :
    LetterStep ⊕ Nat :=
  let present := arguments.getD (index - 2) []
  if 0 < place && place < present.length then
    .inl (letterAt wanted arguments present index place)
  else
    match arguments[index - 1]? with
    | some [45, 45] => .inr (index + 1)
    | some (45 :: b :: rest) => .inl (letterAt wanted arguments (45 :: b :: rest) (index + 1) 1)
    | _ => .inr index

/-- Step through the option letters of arguments. -/
def stepLetters : Program := fun arguments => do
  match arguments with
  | wanted :: name :: given =>
    let p ← Run.process
    let given := if given.isEmpty then p.arguments else given
    let (target, _) := assignment name
    let finish (letter : Option Char) (index place : Nat) : Run Nat := do
      Run.assign "OPTIND" (bytesOf (toString index))
      Run.modifyProcess ({ · with letterIndex := index, letterPlace := place })
      demandName target
      Run.assign target (bytesOf (String.singleton (letter.getD '?')))
      return if letter.isSome then 0 else 1
    match nextLetter? (charsOf wanted) given p.letterIndex p.letterPlace with
    | .inr index => finish none index 0
    | .inl step =>
      match step.complaint with
      | some complaint => Run.complainPlain complaint
      | none => pure ()
      match step.value with
      | some value => Run.assign "OPTARG" value
      | none => Run.removeVariable "OPTARG"
      finish step.letter step.index step.place
  | _ => Run.fail "Usage: getopts optstring var [arg...]"

end ConfigTemplate.Shell.Builtins
