import ConfigTemplate.Decimal.Shortest

/-!
# Styles of decimals

How a double-precision number is written, and how decimal digits are read as one. A number is
written with the fewest digits that read back. Exponents of the leading digit from -4 to 15 are
written positionally with at least one digit after the point; others with a sign and at least two
digits of exponent. Integers are read and written with all their digits, unless these are too many.
-/

namespace ConfigTemplate.Decimal

/-- The number of digits beyond which an integer is neither read nor written. -/
def digitLimit : Nat := 4300

/-- Why an integer is not read or not written. -/
inductive Excess where
  /-- There are so many digits to read. -/
  | read (count : Nat)
  /-- There are too many digits to write. -/
  | written
  deriving DecidableEq, Repr

/-- The wording of an excess of digits. -/
def Excess.message (excess : Excess) : String :=
  let found :=
    match excess with
    | read count => s!": value has {count} digits"
    | written => ""
  s!"Exceeds the limit ({digitLimit} digits) for integer string conversion" ++ found ++
    "; use sys.set_int_max_str_digits() to increase the limit"

/-- Whether an integer has too many digits to be written. -/
def isTooLong (n : Int) : Bool := Nat.pow 10 digitLimit ≤ n.natAbs

/-- The decisions about a number's text that its digits leave open. -/
structure Style where
  /-- The least leading exponent that is written positionally. -/
  positionalFrom : Int
  /-- The first leading exponent beyond the positional ones. -/
  positionalBelow : Int
  /-- The least number of digits of an exponent. -/
  exponentWidth : Nat
  nan : String
  infinity : String

/-- How documents write numbers. -/
def Style.document : Style := ⟨-4, 16, 2, "NaN", "Infinity"⟩

/-- How messages write numbers. -/
def Style.message : Style := ⟨-4, 16, 2, "nan", "inf"⟩

/-- Digits with a point after the first `whole` of them, filled with zeros on either side. -/
def positional (digits : List Char) (whole : Int) : List Char :=
  if whole ≤ 0 then '0' :: '.' :: List.replicate (-whole).toNat '0' ++ digits
  else if digits.length ≤ whole.toNat then
    digits ++ List.replicate (whole.toNat - digits.length) '0' ++ ['.', '0']
  else digits.take whole.toNat ++ '.' :: digits.drop whole.toNat

/-- Digits with a point after the first one, and an exponent. -/
def exponential (width : Nat) (digits : List Char) (lead : Int) : List Char :=
  let mantissa :=
    match digits with
    | [] => []
    | [d] => [d]
    | d :: more => d :: '.' :: more
  let power := Nat.toDigits 10 lead.natAbs
  mantissa ++ 'e' :: (if lead < 0 then '-' else '+') ::
    List.replicate (width - power.length) '0' ++ power

/-- The text of a decimal. -/
def Style.decimal (style : Style) (s : Scientific) : List Char :=
  let s := s.normalized
  let digits := Nat.toDigits 10 s.digits
  let lead := s.exponent + digits.length - 1
  if style.positionalFrom ≤ lead && lead < style.positionalBelow then positional digits (lead + 1)
  else exponential style.exponentWidth digits lead

/-- The text of a double-precision number. -/
def Style.float (style : Style) (x : Float) : String :=
  let signed (negative : Bool) (text : String) := if negative then "-" ++ text else text
  match Parts.ofFloat x with
  | .nan => style.nan
  | .infinite negative => signed negative style.infinity
  | .zero negative => signed negative "0.0"
  | .finite negative magnitude => signed negative (String.ofList (style.decimal magnitude.shortest))

/-- The double-precision number nearest to a decimal. Exponents far outside the range of such
numbers need no arithmetic. -/
def Scientific.toFloat (s : Scientific) : Float :=
  if s.digits = 0 then 0.0
  else
    let lead := s.exponent + Binary.digitCount s.digits
    if 400 < lead then 1.0 / 0.0
    else if lead < -400 then 0.0
    else if s.exponent < 0 then Float.ofScientific s.digits true (-s.exponent).toNat
    else Float.ofScientific s.digits false s.exponent.toNat

end ConfigTemplate.Decimal
