import ConfigTemplate.Shell.Number
import ConfigTemplate.Shell.State

/-!
# What the shell's own commands have in common

How they read their options and numbers, and those of them that leave loops, functions and the
shell.
-/

namespace ConfigTemplate.Shell.Builtins

open Text (Bytes)
open Run (bytesOf textOf)

/-- The options among letters of one argument, and what they leave: the value of the last one may be
the next argument. `flags` are options without a value, `valued` those with one. -/
def lettersOf (flags valued : List Char) : List Char → List Bytes →
    Except String (List (Char × Bytes) × List Bytes)
  | [], rest => .ok ([], rest)
  | letter :: more, rest =>
    if valued.contains letter then
      match more, rest with
      | [], [] => .error s!"No arg for -{letter} option"
      | [], value :: rest => .ok ([(letter, value)], rest)
      | more, rest => .ok ([(letter, bytesOf (String.ofList more))], rest)
    else if flags.contains letter then
      (lettersOf flags valued more rest).map fun (found, rest) => ((letter, []) :: found, rest)
    else .error s!"Illegal option -{letter}"

/-- The options at the front of arguments, and the other arguments. -/
def optionsOf (flags valued : List Char) : Nat → List Bytes →
    Except String (List (Char × Bytes) × List Bytes)
  | 0, arguments => .ok ([], arguments)
  | fuel + 1, arguments =>
    match arguments with
    | [45, 45] :: rest => .ok ([], rest)
    | (45 :: b :: letters) :: rest =>
      match lettersOf flags valued (charsOf (b :: letters)) rest with
      | .error complaint => .error complaint
      | .ok (found, rest) =>
        (optionsOf flags valued fuel rest).map fun (more, rest) => (found ++ more, rest)
    | arguments => .ok ([], arguments)

/-- The options of a command, and its other arguments; a mistake ends it. -/
def options (flags valued : List Char) (arguments : List Bytes) :
    Run (List (Char × Bytes) × List Bytes) :=
  match optionsOf flags valued (arguments.length + 1) arguments with
  | .ok found => return found
  | .error complaint => Run.fail complaint

/-- The number that a text writes; a text that writes none ends the command. -/
def demandNumber (text : Bytes) : Run Nat :=
  match Number.count? text with
  | some n => return n
  | none => Run.fail s!"Illegal number: {textOf text}"

/-- The number that a command's first argument gives, or another one without it. -/
def count (default : Nat) (arguments : List Bytes) : Run Nat :=
  match arguments with
  | [] => return default
  | argument :: _ => demandNumber argument

/-- Leave the shell. -/
def exit : Program := fun arguments => do
  let p ← Run.process
  throw (.exit (← count (p.leaving.getD p.status) arguments))

/-- Go back from a function. -/
def goBack : Program := fun arguments => do
  throw (.back (← count (← Run.process).status arguments))

/-- The number of loops that an argument gives, which are no more than there are. -/
def loopCount (arguments : List Bytes) : Run Nat := do
  let n ← count 1 arguments
  if n = 0 then
    Run.fail s!"Illegal number: {textOf (arguments.headD [])}"
  return min n (← Run.process).loops

/-- Leave loops. -/
def leave : Program := fun arguments => do
  let n ← loopCount arguments
  if n = 0 then return 0 else throw (.leave n)

/-- Go on with a loop's next round. -/
def again : Program := fun arguments => do
  let n ← loopCount arguments
  if n = 0 then return 0 else throw (.again n)

/-- Drop the first arguments of the shell. -/
def shift : Program := fun arguments => do
  let n ← count 1 arguments
  if (← Run.process).arguments.length < n then Run.fail "can't shift that many"
  Run.modifyProcess fun p =>
    { p with arguments := p.arguments.drop n, letterIndex := 1, letterPlace := 0 }
  return 0

/-- A text between quotes: single ones around all but single quotes, double ones around those. -/
def quoted (text : Bytes) : Bytes :=
  let isQuote (b : UInt8) : Bool := b = 39
  let rec go : Nat → Bytes → Bytes
    | 0, _ => []
    | fuel + 1, text =>
      let plain := text.takeWhile (!isQuote ·)
      let rest := text.drop plain.length
      let quotes := rest.takeWhile isQuote
      let first := 39 :: plain ++ [39]
      let after := rest.drop quotes.length
      if rest.isEmpty then first
      else first ++ 34 :: quotes ++ 34 :: (if after.isEmpty then [] else go fuel after)
  go (text.length + 1) text

example : quoted [97] = [39, 97, 39] := by decide

end ConfigTemplate.Shell.Builtins
