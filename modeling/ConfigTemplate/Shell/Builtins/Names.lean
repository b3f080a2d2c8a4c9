import ConfigTemplate.Shell.Builtins.Basic
import ConfigTemplate.Shell.Reader
import ConfigTemplate.Shell.Search

/-!
# Commands about names

The commands that give words another meaning and those that tell what a name means.
-/

namespace ConfigTemplate.Shell.Builtins

open Text (Bytes)
open Run (bytesOf textOf)

/-- The place of a name in a table with so many rows. -/
def rowOf (rows : Nat) (name : String) : Nat :=
  let codes := (bytesOf name).map UInt8.toNat
  (16 * codes.headD 0 + codes.foldl (· + ·) 0) % 32768 % rows

/-- Entries by the rows of their names. -/
def byRows {α : Type} (rows : Nat) (entries : List (String × α)) : List (String × α) :=
  entries.mergeSort fun a b => rowOf rows a.1 ≤ rowOf rows b.1

/-- The number of rows in the table of aliases. -/
def aliasRows : Nat := 39

/-- The number of rows in the table of programs that were found. -/
def foundRows : Nat := 31

/-- An alias as one writes it. -/
def aliasLine (name text : String) : Bytes := bytesOf (name ++ "=") ++ quoted (bytesOf text)

/-- Let words stand for others, or show those that do. -/
def abbreviate : Program := fun arguments => do
  let arguments := if arguments.head? = some [45, 45] then arguments.drop 1 else arguments
  if arguments.isEmpty then
    for (name, text) in byRows aliasRows (← Run.process).aliases do
      Run.write 1 (aliasLine name text ++ [10])
    return 0
  arguments.foldlM (fun status argument => do
    let name := argument.takeWhile (· != 61)
    if name.length < argument.length && !name.isEmpty then
      Run.modifyProcess fun p =>
        let meant := textOf (argument.drop (name.length + 1))
        { p with aliases := Entries.put (textOf name) meant p.aliases }
      return status
    else
      match Entries.get? (textOf argument) (← Run.process).aliases with
      | some text =>
        Run.write 1 (aliasLine (textOf argument) text ++ [10])
        return status
      | none =>
        Run.complainPlain s!"alias: {textOf argument} not found"
        return 1) 0

/-- Let words stand for themselves again. -/
def unalias : Program := fun arguments => do
  let (found, names) ← options ['a'] [] arguments
  if !found.isEmpty then
    Run.modifyProcess ({ · with aliases := [] })
    return 0
  names.foldlM (fun status name => do
    let p ← Run.process
    if (Entries.keys p.aliases).contains (textOf name) then
      Run.modifyProcess ({ · with aliases := p.aliases.filter (·.1 != textOf name) })
      return status
    else
      Run.complainPlain s!"unalias: {textOf name} not found"
      return 1) 0

/-- Remember where programs are, or show what is remembered. -/
def hash : Program := fun arguments => do
  let (found, names) ← options ['r'] [] arguments
  if !found.isEmpty then
    Run.modifyProcess ({ · with found := [] })
    return 0
  if names.isEmpty then
    for (_, path) in byRows foundRows (← Run.process).found do
      Run.write 1 (bytesOf (path ++ "\n"))
    return 0
  names.foldlM (fun status name => do
    match ← meaning false (← Search.path) name with
    | .program path =>
      Search.remember name path
      return status
    | .none found =>
      Run.complain s!"{textOf name}: {found.complaint}"
      return 1
    | _ => return status) 0

/-- Tell what a name means: in a sentence, or by what one writes for it. -/
def describe (inSentence : Bool) (path : Option Bytes) (name : Bytes) : Run Nat := do
  let text := textOf name
  let p ← Run.process
  let tell (sentence : String) (brief : Bytes) : Run Nat := do
    Run.write 1 (if inSentence then name ++ bytesOf (" " ++ sentence ++ "\n") else brief ++ [10])
    return 0
  if Reader.reservedWords.contains text then return ← tell "is a shell keyword" name
  match Entries.get? text p.aliases with
  | some value =>
    return ← tell s!"is an alias for {value}" (bytesOf "alias " ++ aliasLine text value)
  | none => pure ()
  match ← meaning false (path.getD (← Search.path)) name with
  | .function _ => tell "is a shell function" name
  | .special => tell "is a special shell builtin" name
  | .ordinary => tell "is a shell builtin" name
  | .program full =>
    let tracked := path.isNone && (Entries.get? text p.found).isSome
    let words := if tracked then "is a tracked alias for" else "is"
    tell s!"{words} {textOf full}" full
  | .none _ =>
    if inSentence then Run.write 1 (name ++ bytesOf ": not found\n")
    return 127

/-- Tell what names mean. -/
def type : Program := fun names =>
  names.foldlM (fun status name => do return status ||| (← describe true none name)) 0

/-- Tell what a name means that is given after options. -/
def command : Program := fun arguments => do
  let (found, names) ← options ['p', 'v', 'V'] [] arguments
  let letters := found.map (·.1)
  let path := if letters.contains 'p' then some Search.standardPath else none
  match names with
  | name :: _ =>
    if letters.contains 'v' || letters.contains 'V' then
      describe (letters.contains 'V') path name
    else return 0
  | [] => return 0

end ConfigTemplate.Shell.Builtins
