import ConfigTemplate.Decimal.Style

/-!
# Rounded decimals

A binary number with a given number of digits: after the point, or in all. What lies in the middle
between two decimals goes to the one whose last digit is even.
-/

namespace ConfigTemplate.Decimal

/-- A quotient rounded to the nearest number, a half to the even one. -/
def roundedQuotient (num den : Nat) : Nat :=
  let below := num / den
  let twice := 2 * (num - below * den)
  if twice < den then below
  else if den < twice then below + 1
  else if below % 2 = 0 then below else below + 1

/-- Digits with a point so many places before their end. -/
def withPoint (places : Nat) (keepsPoint : Bool) (digits : List Char) : List Char :=
  let all := List.replicate (places + 1 - digits.length) '0' ++ digits
  let whole := all.take (all.length - places)
  if places = 0 then whole ++ (if keepsPoint then ['.'] else [])
  else whole ++ '.' :: all.drop (all.length - places)

/-- Decimal digits without those of zero that end a fraction, and without a point at the end. -/
def withoutZeros (text : List Char) : List Char :=
  if text.contains '.' then
    ((text.reverse.dropWhile (· = '0')).dropWhile (· = '.')).reverse
  else text

namespace Binary

/-- A number in so many units below one, rounded. -/
def scaled (b : Binary) (places : Int) : Nat :=
  roundedQuotient (b.value * Nat.pow 10 places.toNat)
    (b.denominator * Nat.pow 10 (-places).toNat)

/-- A number with so many digits after the point. -/
def fixed (b : Binary) (places : Nat) (keepsPoint : Bool) : List Char :=
  withPoint places keepsPoint (Nat.toDigits 10 (b.scaled places))

/-- The leading digit and so many more, as one number, and the exponent of the leading one. -/
def leading (b : Binary) (places : Nat) : Nat × Int :=
  let lead := b.leadingExponent
  let digits := b.scaled (places - lead)
  if digits < Nat.pow 10 (places + 1) then (digits, lead) else (digits / 10, lead + 1)

/-- A number with one digit before the point, so many after it, and an exponent. -/
def exponential (b : Binary) (places : Nat) (keepsPoint : Bool) : List Char :=
  let (digits, lead) := b.leading places
  let power := Nat.toDigits 10 lead.natAbs
  withPoint places keepsPoint (Nat.toDigits 10 digits) ++
    'e' :: (if lead < 0 then '-' else '+') :: List.replicate (2 - power.length) '0' ++ power

/-- A number with so many digits in all: with an exponent if it is small or has more digits before
its point. Zeros at the end of a fraction are left out unless all digits are to be kept. -/
def general (b : Binary) (digits : Nat) (keepsAll : Bool) : List Char :=
  let digits := max digits 1
  let (_, lead) := b.leading (digits - 1)
  let trim (text : List Char) : List Char := if keepsAll then text else withoutZeros text
  if -4 ≤ lead && lead < digits then
    trim (b.fixed (digits - 1 - lead).toNat keepsAll)
  else
    let text := b.exponential (digits - 1) keepsAll
    trim (text.takeWhile (· != 'e')) ++ text.dropWhile (· != 'e')

/-- The mantissa with a single bit before the point and 52 after it, and its exponent. -/
def normalized (b : Binary) : Nat × Int :=
  let shift := 52 - Nat.log2 b.mantissa
  (b.mantissa * Nat.pow 2 shift, b.exponent + 52 - shift)

/-- A number in base sixteen with an exponent of two, with so many digits after the point or as
many as it takes. -/
def hexadecimal (b : Binary) (places : Option Nat) (keepsPoint : Bool) : List Char :=
  let (mantissa, power) := b.normalized
  let kept := (places.getD 13)
  let mantissa :=
    if kept < 13 then roundedQuotient mantissa (Nat.pow 16 (13 - kept))
    else mantissa * Nat.pow 16 (kept - 13)
  let text := withPoint kept keepsPoint (Nat.toDigits 16 mantissa)
  let text := if places.isSome then text else withoutZeros text
  '0' :: 'x' :: text ++ 'p' :: (if power < 0 then '-' else '+') :: Nat.toDigits 10 power.natAbs

end Binary

end ConfigTemplate.Decimal
