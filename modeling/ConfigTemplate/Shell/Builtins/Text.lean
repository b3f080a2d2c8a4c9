import ConfigTemplate.Shell.Builtins.Variables
import ConfigTemplate.Shell.Condition

/-!
# Commands for text

The commands that write text, test conditions and read lines.
-/

namespace ConfigTemplate.Shell.Builtins

open Text (Bytes)
open Run (bytesOf textOf)

/-- Write text with escapes. -/
def echo : Program := fun arguments => do
  Run.write 1 (Format.echoed arguments)
  return 0

/-- Write text by a format, up to what cannot be written, which stops the command. -/
def printf : Program := fun arguments => do
  match (← options [] [] arguments).2 with
  | [] => Run.fail "usage: printf format [arg ...]"
  | format :: given =>
    let output := Format.formatted format given
    output.complaints.forM Run.complain
    match output.failure with
    | some complaint =>
      Run.complain complaint
      Run.write 1 output.text
      throw (.mistake 2)
    | none => Run.write 1 output.text
    return if output.complaints.isEmpty then 0 else 1

/-- Whether a condition holds. -/
def test : Program := fun arguments => do
  match Condition.holds (← get) (arguments.length + 1) arguments with
  | .ok result => return if result then 0 else 1
  | .error complaint => Run.fail complaint

/-- Whether a condition between brackets holds. Of the last argument only the first character
counts. -/
def bracket : Program := fun arguments =>
  if (arguments.getLast?.bind List.head?) = some 93 then test arguments.dropLast
  else Run.fail "missing ]"

/-- The line at the front of a text, with the characters marked that backslashes protect, the number
of bytes that it takes, and whether it has come to its end. Where `raw` holds, a backslash is like
any other character. -/
def lineOf (raw : Bool) : Bytes → Field × Nat × Bool
  | [] => ([], 0, false)
  | 10 :: _ => ([], 1, true)
  | [92] => (if raw then [(92, false)] else [], 1, false)
  | 92 :: b :: rest =>
    if raw then
      if b = 10 then ([(92, false)], 2, true)
      else
        let (line, count, ended) := lineOf raw rest
        ((92, false) :: (b, false) :: line, count + 2, ended)
    else
      let (line, count, ended) := lineOf raw rest
      (if b = 10 || b = 0 then line else (b, true) :: line, count + 2, ended)
  | b :: rest =>
    let (line, count, ended) := lineOf raw rest
    (if b = 0 then line else (b, false) :: line, count + 1, ended)

/-- The fields of a line that is read into so many variables. The last one takes all that is left
without the blanks at its end, and without the separator after it if it is a single field. -/
def lineFields (separators : Bytes) : Nat → Field → List Bytes
  | 0, _ => []
  | count + 1, line =>
    let separates (c : UInt8 × Bool) : Bool := !c.2 && separators.contains c.1
    let isBlank (c : UInt8 × Bool) : Bool := separates c && isBlankByte c.1
    let body := line.dropWhile isBlank
    let field := body.takeWhile (!separates ·)
    let after := (body.drop field.length).dropWhile isBlank
    let rest :=
      match after with
      | c :: more => if separates c then more.dropWhile isBlank else after
      | [] => []
    if count = 0 then
      if rest.isEmpty then [Field.bytes field]
      else [Field.bytes (body.reverse.dropWhile isBlank).reverse]
    else Field.bytes field :: lineFields separators count rest

/-- Read a line into variables. -/
def read : Program := fun arguments => do
  let (found, names) ← options ['r'] ['p'] arguments
  if names.isEmpty then Run.fail "arg count"
  let raw := found.any (·.1 = 'r')
  let content ← Run.readWith 0 fun content => (lineOf raw content).2.1
  let (line, _, ended) := lineOf raw (content.toOption.getD [])
  let fields := lineFields (← separators) names.length line
  for (name, n) in names.zipIdx do
    let name := textOf (name.takeWhile (· != 61))
    demandName name
    Run.assign name (fields.getD n [])
  return if ended then 0 else 1

end ConfigTemplate.Shell.Builtins
