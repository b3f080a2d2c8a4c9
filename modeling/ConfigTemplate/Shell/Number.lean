import ConfigTemplate.Shell.Fields
import ConfigTemplate.Shell.Sum

/-!
# Numbers in arguments

The numbers that commands take from texts: blanks around them do not count, a sign may stand before
them, and they have to lie within 64 bits.
-/

namespace ConfigTemplate.Shell.Number

open Text (Bytes)

/-- White space. -/
def isBlank (c : Char) : Bool := c = ' ' || ('\t' ≤ c && c ≤ '\r')

/-- A text without the blanks at its front, and whether a minus sign follows. A plus sign says
nothing. -/
def signed (cs : List Char) : Bool × List Char :=
  match cs.dropWhile isBlank with
  | '-' :: rest => (true, rest)
  | '+' :: rest => (false, rest)
  | rest => (false, rest)

/-- A number within 64 bits. -/
def within (negative : Bool) (n : Int) : Option Int :=
  let n := if negative then -n else n
  if Sum.clamped n = n then some n else none

/-- The number in base ten that a text writes. -/
def decimal? (bytes : Bytes) : Option Int :=
  let (negative, body) := signed (charsOf bytes)
  let digits := body.takeWhile Char.isDigit
  if digits.isEmpty || !(body.drop digits.length).all isBlank then none
  else within negative (Sum.numberIn 10 digits)

/-- A number in base ten that is at least zero and fits into 32 bits. -/
def count? (bytes : Bytes) : Option Nat :=
  match decimal? bytes with
  | some n => if 0 ≤ n && n < Int.pow 2 31 then some n.toNat else none
  | none => none

/-- The number that a text writes in the base that its front tells. A blank text is zero. -/
def anyBase? (bytes : Bytes) : Option Int :=
  let cs := charsOf bytes
  if cs.all isBlank then some 0
  else
    let (negative, body) := signed cs
    if !body.head?.any Char.isDigit then none
    else
      let (n, rest) := Sum.numeral body
      if rest.all isBlank then within negative n else none

end ConfigTemplate.Shell.Number
