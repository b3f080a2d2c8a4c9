import ConfigTemplate.Text.Encoding

/-!
# Bytes in settings files

Bytes are written in base 64: four characters stand for three bytes, and equals signs fill up the
last group. Characters outside the alphabet are passed over.
-/

namespace ConfigTemplate.Yaml.Scalar

/-- The value of a character of the alphabet. -/
def sixBits? (c : Char) : Option Nat :=
  if 'A' ≤ c && c ≤ 'Z' then some (c.toNat - 'A'.toNat)
  else if 'a' ≤ c && c ≤ 'z' then some (c.toNat - 'a'.toNat + 26)
  else if '0' ≤ c && c ≤ '9' then some (c.toNat - '0'.toNat + 52)
  else if c = '+' then some 62
  else if c = '/' then some 63
  else none

/-- The bytes of characters. `place` counts the characters of the present group, `pending` holds
the bits that make no byte yet, and `filled` counts equals signs in a row. A group that is filled
up ends the bytes; one that is neither full nor filled up is refused. -/
def binaryFrom (place pending filled : Nat) : List Char → Option Text.Bytes
  | [] => if place = 0 then some [] else none
  | c :: rest =>
    if c = '=' then
      if 2 ≤ place && 4 ≤ place + filled + 1 then some []
      else binaryFrom place pending (filled + 1) rest
    else
      match sixBits? c with
      | none => binaryFrom place pending filled rest
      | some bits =>
        let all := pending * 64 + bits
        match place with
        | 0 => binaryFrom 1 bits 0 rest
        | 1 => (binaryFrom 2 (all % 16) 0 rest).map (UInt8.ofNat (all / 16) :: ·)
        | 2 => (binaryFrom 3 (all % 4) 0 rest).map (UInt8.ofNat (all / 4) :: ·)
        | _ => (binaryFrom 0 0 0 rest).map (UInt8.ofNat all :: ·)

/-- The bytes that a text writes; none for a text that is not ASCII or whose last group is not
complete. -/
def binary? (text : String) : Option Text.Bytes :=
  let cs := text.toList
  if cs.all fun c => c.toNat < 128 then binaryFrom 0 0 0 cs else none

example : binary? "aGk=" = some [0x68, 0x69] := by decide
example : binary? "aGk" = none := by decide

end ConfigTemplate.Yaml.Scalar
