import ConfigTemplate.Shell.Programs.Places

/-!
# Bytes as text

The programs that write bytes with the letters and digits of an alphabet, and read them again.
-/

namespace ConfigTemplate.Shell.Programs

open Text (Bytes)
open Run (bytesOf textOf)

/-- An alphabet, and how many bits one of its characters stands for. -/
structure Alphabet where
  characters : List Char
  bits : Nat
  /-- The number of characters in a group, which is filled up with equals signs. -/
  group : Nat

namespace Alphabet

/-- The capital letters. -/
def capitals : List Char := "ABCDEFGHIJKLMNOPQRSTUVWXYZ".toList

/-- The small letters. -/
def smalls : List Char := "abcdefghijklmnopqrstuvwxyz".toList

/-- The digits. -/
def digits : List Char := "0123456789".toList

/-- The alphabet of 64 characters. -/
def base64 : Alphabet := ⟨capitals ++ smalls ++ digits ++ ['+', '/'], 6, 4⟩

/-- The alphabet of 64 characters that may stand in addresses. -/
def base64url : Alphabet := ⟨capitals ++ smalls ++ digits ++ ['-', '_'], 6, 4⟩

/-- The alphabet of 32 characters. -/
def base32 : Alphabet := ⟨capitals ++ "234567".toList, 5, 8⟩

/-- The alphabet of 32 characters that keeps the order of bytes. -/
def base32hex : Alphabet := ⟨digits ++ capitals.take 22, 5, 8⟩

/-- The hexadecimal digits. -/
def base16 : Alphabet := ⟨digits ++ capitals.take 6, 4, 2⟩

/-- The number of bytes in a group. -/
def bytesPerGroup (a : Alphabet) : Nat := a.group * a.bits / 8

/-- The characters of a group of bytes. -/
def encodeGroup (a : Alphabet) (bytes : Bytes) : Bytes :=
  let filled := bytes ++ List.replicate (a.bytesPerGroup - bytes.length) 0
  let n := filled.foldl (fun n b => n * 256 + b.toNat) 0
  let used := (bytes.length * 8 + a.bits - 1) / a.bits
  (List.range a.group).map fun place =>
    if used ≤ place then 61
    else
      let index := n >>> (a.bits * (a.group - 1 - place)) % Nat.pow 2 a.bits
      UInt8.ofNat (a.characters.getD index '=').toNat

/-- Bytes with the characters of an alphabet. -/
def encode (a : Alphabet) : Nat → Bytes → Bytes
  | 0, _ => []
  | fuel + 1, bytes =>
    if bytes.isEmpty then []
    else a.encodeGroup (bytes.take a.bytesPerGroup) ++ a.encode fuel (bytes.drop a.bytesPerGroup)

/-- The bytes of a group of characters, and whether the group is whole and well formed. -/
def decodeGroup (a : Alphabet) (group : Bytes) : Bytes × Bool :=
  let body := group.takeWhile (· ≠ 61)
  let known := body.takeWhile fun b => a.characters.contains (Char.ofNat b.toNat)
  let n := known.foldl (fun n b =>
    n * Nat.pow 2 a.bits + (a.characters.idxOf? (Char.ofNat b.toNat)).getD 0) 0
  let count := known.length * a.bits / 8
  let spare := known.length * a.bits - 8 * count
  let bytes := (List.range count).map fun place =>
    UInt8.ofNat (n >>> (spare + 8 * (count - 1 - place)) % 256)
  let isWhole := group.length = a.group && known.length = body.length &&
    (group.drop body.length).all (· = 61) && n % Nat.pow 2 spare = 0 && spare < a.bits
  (bytes, isWhole)

/-- The bytes that characters of an alphabet stand for, and whether they are well formed. -/
def decode (a : Alphabet) : Nat → Bytes → Bytes × Bool
  | 0, _ => ([], true)
  | fuel + 1, text =>
    if text.isEmpty then ([], true)
    else
      let (bytes, isWhole) := a.decodeGroup (text.take a.group)
      if !isWhole then (bytes, false)
      else
        let (more, ok) := a.decode fuel (text.drop a.group)
        (bytes ++ more, ok)

end Alphabet

/-- A text in lines of so many characters. -/
def wrapped (width : Nat) : Nat → Bytes → Bytes
  | 0, _ => []
  | fuel + 1, text =>
    if text.isEmpty then [] else text.take width ++ 10 :: wrapped width fuel (text.drop width)

/-- The options of programs for alphabets. -/
def alphabetChoices : List Choice :=
  [flag 'd' "decode", flag 'i' "ignore-garbage", valued 'w' "wrap", ⟨['D'], "", .none⟩]

/-- Write or read the text of bytes with an alphabet. -/
def convertBytes (program : String) (a : Alphabet) (manual : Manual) (given : Given) : Run Nat := do
  demandAtMost manual 1 given.operands
  let width : Nat ←
    match given.value? "w" with
    | none => pure 76
    | some text =>
      match number? text with
      | some n => pure n
      | none => fail 1 s!"{program}: invalid wrap size: {curly text}"
  let name := given.operands.headD [45]
  match ← contentOf name with
  | .error fault => fail 1 s!"{program}: {named name}: {fault}"
  | .ok content =>
    if given.has "d" || given.has "D" then
      let text := content.filter fun b =>
        b ≠ 10 && (!given.has "i" || b = 61 || a.characters.contains (Char.ofNat b.toNat))
      let (bytes, ok) := a.decode (text.length + 1) text
      Run.write 1 bytes
      if ok then return 0 else fail 1 s!"{program}: invalid input"
    else
      let text := a.encode (content.length + 1) content
      Run.write 1 (if width = 0 then text else wrapped width (text.length + 1) text)
      return 0

/-- A program for one alphabet. -/
def alphabetProgram (program : String) (a : Alphabet) : Program := fun arguments => do
  let manual : Manual := { name := program, choices := alphabetChoices }
  convertBytes program a manual (← manual.read arguments)

/-- The alphabets by the names of their options. -/
def alphabets : List (String × Alphabet) :=
  [("base64", .base64), ("base64url", .base64url), ("base32", .base32),
    ("base32hex", .base32hex), ("base16", .base16)]

/-- The program for several alphabets. -/
def anyAlphabet : Program := fun arguments => do
  let manual : Manual :=
    { name := "basenc"
      choices := alphabetChoices ++ alphabets.map fun (name, _) => long name .none }
  let given ← manual.read arguments
  match (given.last? (alphabets.map (·.1))).bind fun name => Entries.get? name alphabets with
  | some a => convertBytes "basenc" a manual given
  | none => misuse manual "missing encoding type"

end ConfigTemplate.Shell.Programs
