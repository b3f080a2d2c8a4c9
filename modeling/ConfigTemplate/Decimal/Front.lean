import ConfigTemplate.Decimal.Style
import ConfigTemplate.Json.Reader

/-!
# Numbers at the front of a text

The double-precision number that a text begins with: decimal digits with a point and an exponent,
the same in base sixteen after `0x` with an exponent of two, or a word for infinity or for what is
no number.
-/

namespace ConfigTemplate.Decimal.Front

/-- Blanks at the front of a text. -/
def isBlank (c : Char) : Bool := c = ' ' || ('\t' ≤ c && c ≤ '\r')

/-- Digits with at most one point among them: the digits, how many come after the point, and what
follows. -/
def digits (isDigit : Char → Bool) (cs : List Char) : List Char × Nat × List Char :=
  let whole := cs.takeWhile isDigit
  match cs.drop whole.length with
  | '.' :: rest =>
    let fraction := rest.takeWhile isDigit
    (whole ++ fraction, fraction.length, rest.drop fraction.length)
  | rest => (whole, 0, rest)

/-- An exponent after its letter, and what follows it. Without digits there is none. -/
def exponent (letter : Char) (cs : List Char) : Int × List Char :=
  match cs with
  | c :: rest =>
    if c.toLower = letter then
      let (negative, body) : Bool × List Char :=
        match rest with
        | '-' :: body => (true, body)
        | '+' :: body => (false, body)
        | body => (false, body)
      let power := body.takeWhile Char.isDigit
      if power.isEmpty then (0, cs)
      else
        let n : Int := Json.Reader.digitsValue power
        (if negative then -n else n, body.drop power.length)
    else (0, cs)
  | [] => (0, [])

/-- A decimal and what follows it. -/
def decimal? (cs : List Char) : Option (Float × List Char) :=
  let (ds, places, rest) := digits Char.isDigit cs
  if ds.isEmpty then none
  else
    let (power, rest) := exponent 'e' rest
    some (Scientific.toFloat ⟨Json.Reader.digitsValue ds, power - places⟩, rest)

/-- A number in base sixteen and what follows it. -/
def hexadecimal? (cs : List Char) : Option (Float × List Char) :=
  let (ds, places, rest) := digits (fun c => (Json.Reader.hexValue? c).isSome) cs
  if ds.isEmpty then none
  else
    let n := ds.foldl (fun n c => 16 * n + (Json.Reader.hexValue? c).getD 0) 0
    let (power, rest) := exponent 'p' rest
    some ((Float.ofNat n).scaleB (power - 4 * places), rest)

/-- Words for numbers. -/
def words : List (String × Float) :=
  [("infinity", 1.0 / 0.0), ("inf", 1.0 / 0.0), ("nan", 0.0 / 0.0)]

/-- A number without a sign, and what follows it. -/
def unsigned? (cs : List Char) : Option (Float × List Char) :=
  let found := words.find? fun (word, _) => word.toList.isPrefixOf (cs.map Char.toLower)
  match found, cs with
  | some (word, x), _ => some (x, cs.drop word.length)
  | none, '0' :: x :: rest =>
    if x = 'x' || x = 'X' then (hexadecimal? rest).or (decimal? cs) else decimal? cs
  | none, cs => decimal? cs

/-- The number that a text begins with, after blanks and a sign, and what follows it. -/
def number? (cs : List Char) : Option (Float × List Char) :=
  match cs.dropWhile isBlank with
  | '-' :: rest => (unsigned? rest).map fun (x, rest) => (-x, rest)
  | '+' :: rest => unsigned? rest
  | rest => unsigned? rest

end ConfigTemplate.Decimal.Front
