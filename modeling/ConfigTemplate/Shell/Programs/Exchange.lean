import ConfigTemplate.Shell.Format
import ConfigTemplate.Shell.Programs.Columns

/-!
# Exchanging bytes

The program that puts other bytes in place of bytes, leaves bytes out, and shortens runs of them.
Sets of bytes are written as bytes, escapes, ranges, named classes and repetitions.
-/

namespace ConfigTemplate.Shell.Programs

open Text (Bytes)
open Run (bytesOf textOf)

/-- A part of a set of bytes. -/
inductive SetPart where
  | byte (b : UInt8)
  | range (low high : UInt8)
  | named (name : String)
  /-- A byte so many times; as often as there is room without a number. -/
  | repeated (b : UInt8) (count : Option Nat)
  deriving DecidableEq

namespace SetPart

/-- The byte that a text begins with, which may be written by a backslash, and what follows it. -/
def first? : Bytes → Option (UInt8 × Bytes)
  | [] => none
  | [92] => some (92, [])
  | 92 :: c :: rest =>
    let digits := (([c] ++ rest).take 3).takeWhile Format.isOctal
    if !digits.isEmpty then
      let digits := if 255 < Format.number 8 digits then digits.take 2 else digits
      some (UInt8.ofNat (Format.number 8 digits), ([c] ++ rest).drop digits.length)
    else
      match Format.letters.find? fun (letter, _) => Format.byte letter = c && letter != 'e' with
      | some (_, code) => some (UInt8.ofNat code, rest)
      | none => some (c, rest)
  | b :: rest => some (b, rest)

/-- The text between an opening bracket with a sign and the sign with a closing one. -/
def bracketed? (sign : UInt8) (text : Bytes) : Option (Bytes × Bytes) :=
  match text with
  | 91 :: s :: rest =>
    if s != sign then none
    else
      let name := rest.takeWhile (· != sign)
      match rest.drop name.length with
      | s :: 93 :: after => if s = sign then some (name, after) else none
      | _ => none
  | _ => none

/-- A repetition between brackets, and what follows it. -/
def repetition? (text : Bytes) : Option (SetPart × Bytes) :=
  match text with
  | 91 :: rest =>
    match first? rest with
    | some (b, 42 :: after) =>
      let digits := after.takeWhile isDigit
      match after.drop digits.length with
      | 93 :: after =>
        let count := Format.number (if digits.head? = some 48 then 8 else 10) digits
        some (.repeated b (if count = 0 then none else some count), after)
      | _ => none
    | _ => none
  | _ => none

/-- The parts of the set that a text writes. -/
def ofText : Nat → Bytes → Except String (List SetPart)
  | 0, _ => .ok []
  | _ + 1, [] => .ok []
  | fuel + 1, text => do
    match bracketed? 58 text with
    | some (name, after) =>
      if (inClass? (textOf name) 'a').isNone then
        throw s!"invalid character class {curly name}"
      return .named (textOf name) :: (← ofText fuel after)
    | none =>
      match bracketed? 61 text with
      | some ([b], after) => return .byte b :: (← ofText fuel after)
      | _ =>
        match repetition? text with
        | some (part, after) => return part :: (← ofText fuel after)
        | none =>
          match first? text with
          | none => return []
          | some (low, 45 :: rest) =>
            match first? rest with
            | none => return [.byte low, .byte 45]
            | some (high, after) =>
              if high < low then
                let shown := text.take (text.length - after.length)
                throw (s!"range-endpoints of {straight shown} are in reverse " ++
                  "collating sequence order")
              return .range low high :: (← ofText fuel after)
          | some (b, rest) => return .byte b :: (← ofText fuel rest)

/-- All bytes. -/
def allBytes : Bytes := (List.range 256).map UInt8.ofNat

/-- The bytes of a part, repetitions without a number so many times. -/
def bytes (room : Nat) : SetPart → Bytes
  | byte b => [b]
  | range low high => allBytes.filter fun b => low ≤ b && b ≤ high
  | named name => allBytes.filter fun b =>
    b < 128 && (inClass? name (Char.ofNat b.toNat)).getD false
  | repeated b count => List.replicate (count.getD room) b

/-- The bytes of a set that is to be so long if it has a repetition without a number. -/
def expanded (length : Nat) (parts : List SetPart) : Bytes :=
  let fixed := (parts.flatMap (bytes 0)).length
  parts.flatMap (bytes (length - fixed))

/-- Whether a part stands for small or for capital letters. -/
def isCase (part : SetPart) : Bool := part = .named "lower" || part = .named "upper"

end SetPart

/-- Bytes without repetitions in a row of those of a set. -/
def squeezed (set : Bytes) (text : Bytes) : Bytes :=
  (runsOf (fun a b => a = b && set.contains a) text).filterMap List.head?

/-- Put bytes in place of others, leave bytes out, or shorten runs of them. -/
def exchange : Program := fun arguments => do
  let manual : Manual :=
    { name := "tr"
      anywhere := false
      choices := [flag 'c' "complement", ⟨['c', 'C'], "", .none⟩, flag 'd' "delete",
        flag 's' "squeeze-repeats", flag 't' "truncate-set1"] }
  let given ← manual.read arguments
  let deletes := given.has "d"
  let squeezes := given.has "s"
  let texts := given.operands
  match texts with
  | [] => misuse manual "missing operand"
  | [first] =>
    if deletes = squeezes then
      let why := if deletes then "both deleting and squeezing repeats" else "translating"
      misuse manual
        s!"missing operand after {curly first}\nTwo strings must be given when {why}."
  | [_, second] =>
    if deletes && !squeezes then
      misuse manual (s!"extra operand {curly second}\nOnly one string may be given when " ++
        "deleting without squeezing repeats.")
  | _ :: _ :: third :: _ => misuse manual s!"extra operand {curly third}"
  let partsOf (text : Bytes) : Run (List SetPart) := do
    if (text.reverse.takeWhile (· = 92)).length % 2 = 1 then
      Run.complainPlain "tr: warning: an unescaped backslash at end of string is not portable"
    match SetPart.ofText (text.length + 1) text with
    | .ok parts => return parts
    | .error complaint => fail 1 s!"tr: {complaint}"
  let firstParts ← partsOf (texts.getD 0 [])
  let secondParts ← partsOf (texts.getD 1 [])
  let plain := SetPart.expanded 0 firstParts
  let first :=
    if given.has "c" then SetPart.allBytes.filter (!plain.contains ·) else plain
  let second := SetPart.expanded first.length secondParts
  let translates := texts.length = 2 && !deletes
  if translates then
    let isClass (part : SetPart) : Bool :=
      match part with
      | .named _ => true
      | _ => false
    if secondParts.any fun part => isClass part && !part.isCase then
      fail 1 ("tr: when translating, the only character classes that may appear in\n" ++
        "string2 are 'upper' and 'lower'")
    if secondParts.any SetPart.isCase && !firstParts.any SetPart.isCase then
      fail 1 "tr: misaligned [:upper:] and/or [:lower:] construct"
    if second.isEmpty && !first.isEmpty && !given.has "t" then
      fail 1 "tr: when not truncating set1, string2 must be non-empty"
  let input : Bytes ←
    match ← Run.readAll 0 with
    | .ok input => pure input
    | .error fault => fail 1 s!"tr: read error: {fault.message}"
  let output :=
    if deletes then
      let left := input.filter (!first.contains ·)
      if squeezes then squeezed second left else left
    else if translates then
      let first := if given.has "t" then first.take second.length else first
      /- Of a byte that occurs several times the last place counts. -/
      let table := ((first.zipIdx).foldl (fun (table : Array UInt8) (b, n) =>
        table.setIfInBounds b.toNat (second.getD n (second.getLast?.getD b)))
        SetPart.allBytes.toArray)
      let changed := input.map fun b => table.getD b.toNat b
      if squeezes then squeezed second changed else changed
    else squeezed first input
  Run.write 1 output
  return 0

end ConfigTemplate.Shell.Programs
