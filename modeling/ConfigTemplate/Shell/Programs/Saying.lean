import ConfigTemplate.Shell.Condition
import ConfigTemplate.Shell.Format
import ConfigTemplate.Shell.Programs.Places

/-!
# Programs that write what they are given

The programs that succeed or fail, write their arguments, test conditions, repeat a line, and pass
on what they read.
-/

namespace ConfigTemplate.Shell.Programs

open Text (Bytes)
open Run (bytesOf textOf)

/-- End with a status. -/
def ending (status : Nat) : Program := fun _ => return status

/-- The value of a hexadecimal digit. -/
def hexDigit? (b : UInt8) : Option Nat :=
  if isDigit b then some (b.toNat - 48)
  else if 97 ≤ b && b ≤ 102 then some (b.toNat - 87)
  else if 65 ≤ b && b ≤ 70 then some (b.toNat - 55)
  else none

/-- A text with its escapes, and whether one of them ends all output. -/
def withEscapes : Nat → Bytes → Bytes × Bool
  | 0, _ => ([], false)
  | _ + 1, [] => ([], false)
  | fuel + 1, 92 :: b :: rest =>
    let go (front rest : Bytes) : Bytes × Bool :=
      let (text, stops) := withEscapes fuel rest
      (front ++ text, stops)
    let numbered (base : Nat) (digits : List Nat) : UInt8 :=
      UInt8.ofNat (digits.foldl (fun n d => n * base + d) 0)
    match Char.ofNat b.toNat with
    | 'c' => ([], true)
    | 'x' =>
      let digits := (rest.take 2).takeWhile fun b => (hexDigit? b).isSome
      if digits.isEmpty then go [92, 120] rest
      else go [numbered 16 (digits.filterMap hexDigit?)] (rest.drop digits.length)
    | '0' =>
      let digits := (rest.take 3).takeWhile Format.isOctal
      go [numbered 8 (digits.filterMap hexDigit?)] (rest.drop digits.length)
    | c =>
      match Format.letters.find? (·.1 = c) with
      | some (_, code) => go [UInt8.ofNat code] rest
      | none =>
        if Format.isOctal b then
          let digits := ((b :: rest).take 3).takeWhile Format.isOctal
          go [numbered 8 (digits.filterMap hexDigit?)] ((b :: rest).drop digits.length)
        else go [92, b] rest
  | fuel + 1, b :: rest =>
    let (text, stops) := withEscapes fuel rest
    (b :: text, stops)

/-- Whether an argument consists of the letters of options. -/
def isEchoOption : Bytes → Bool
  | 45 :: b :: letters => (b :: letters).all [110, 101, 69].contains
  | _ => false

/-- Write arguments. -/
def echo : Program := fun arguments => do
  let options := arguments.takeWhile isEchoOption
  let letters := options.flatMap (·.drop 1)
  let text := [32].intercalate (arguments.drop options.length)
  let escapes := (letters.filter (· ≠ 110)).getLast? = some 101
  let (text, stops) := if escapes then withEscapes (text.length + 1) text else (text, false)
  Run.write 1 (if letters.contains 110 || stops then text else text ++ [10])
  return 0

/-- Write arguments by a format. -/
def printf : Program := fun arguments => do
  match arguments with
  | [] => misuse { name := "printf", choices := [], anywhere := false } "missing operand"
  | format :: given =>
    let output := Format.formatted format given
    Run.write 1 output.text
    output.complaints.forM fun complaint => Run.complainPlain s!"printf: {complaint}"
    output.failure.forM fun complaint => Run.complainPlain s!"printf: {complaint}"
    return if output.complaints.isEmpty && output.failure.isNone then 0 else 1

/-- Test a condition. -/
def test : Program := fun arguments => do
  match Condition.holds (← get) (arguments.length + 1) arguments with
  | .ok result => return if result then 0 else 1
  | .error complaint => fail 2 s!"test: {complaint}"

/-- Test a condition between brackets. -/
def bracket : Program := fun arguments =>
  if arguments.getLast? = some [93] then test arguments.dropLast
  else fail 2 "[: missing ‘]’"

/-- The number of bytes that are written before nobody reads any more. -/
def endlessSize : Nat := 65536

/-- Repeat a line as long as it is read. -/
def repeatLine : Program := fun arguments => do
  let manual : Manual := { name := "yes", choices := [] }
  let given ← manual.read arguments
  let line := if given.operands.isEmpty then [121] else [32].intercalate given.operands
  let line := line ++ [10]
  Run.write 1 (List.replicate (endlessSize / line.length + 1) line).flatten
  throw (.killed 13)

/-- Write what there is to read, and write it to files too. -/
def copyThrough : Program := fun arguments => do
  let manual : Manual :=
    { name := "tee"
      choices := [flag 'a' "append", flag 'i' "ignore-interrupts", flag 'p' "",
        long "output-error" .optional] }
  let given ← manual.read arguments
  let opened ← given.operands.filterMapM fun name => do
    match ← Storage.openFile name false true (given.has "a") (!given.has "a") with
    | .ok channel => return some (name, channel)
    | .error fault =>
      Run.complainPlain s!"tee: {named name}: {Storage.wording fault}"
      return none
  let content := (← Run.readAll 0).toOption.getD []
  Run.write 1 content
  for (_, channel) in opened do
    let s ← get
    match channel.written s.files content with
    | .ok (files, _) => set { s with files := files }
    | .error fault => Run.complainPlain s!"tee: {fault.message}"
  return if opened.length = given.operands.length then 0 else 1

end ConfigTemplate.Shell.Programs
