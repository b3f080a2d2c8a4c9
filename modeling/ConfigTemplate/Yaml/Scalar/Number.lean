import ConfigTemplate.Json.Reader
import ConfigTemplate.Text.Blank
import ConfigTemplate.Text.Digit
import ConfigTemplate.Text.Lowercase
import ConfigTemplate.Yaml.Fault

/-!
# Numbers in settings files

Integers are written in base two, eight, ten or sixteen, floating-point numbers in base ten; parts
between colons are digits of base sixty. Underscores may stand between digits. A text has the shape
of a number by its characters; its value is read more liberally, for a text whose type is given.
-/

namespace ConfigTemplate.Yaml.Scalar

open Json.Reader (isAsciiDigit)

/-- Characters without a sign before them. -/
def unsigned : List Char → List Char
  | '+' :: rest => rest
  | '-' :: rest => rest
  | cs => cs

/-- Whether characters have a minus before them. -/
def isNegative (cs : List Char) : Bool := cs.head? = some '-'

/-- Digits and underscores. -/
def isDigitOrBar (c : Char) : Bool := isAsciiDigit c || c = '_'

/-- A digit of base sixty after the first one. -/
def isSixtieth : List Char → Bool
  | [d] => isAsciiDigit d
  | [t, d] => '0' ≤ t && t ≤ '5' && isAsciiDigit d
  | _ => false

/-- A run of digits and underscores that begins with a digit in a range. -/
def startsWithDigit (least : Char) : List Char → Bool
  | d :: rest => least ≤ d && d ≤ '9' && rest.all isDigitOrBar
  | [] => false

/-- Whether characters have the shape of an integer. -/
def isInteger (cs : List Char) : Bool :=
  match unsigned cs with
  | ['0'] => true
  | '0' :: 'b' :: digits => !digits.isEmpty && digits.all fun c => c = '0' || c = '1' || c = '_'
  | '0' :: 'x' :: digits =>
    !digits.isEmpty && digits.all fun c => (Json.Reader.hexValue? c).isSome || c = '_'
  | '0' :: digits => digits.all fun c => '0' ≤ c && c ≤ '7' || c = '_'
  | body =>
    match body.splitOn ':' with
    | first :: rest => startsWithDigit '1' first && rest.all isSixtieth
    | [] => false

/-- An exponent with its sign, or nothing. -/
def isExponent : List Char → Bool
  | [] => true
  | e :: sign :: digits =>
    (e = 'e' || e = 'E') && (sign = '+' || sign = '-') && !digits.isEmpty &&
      digits.all isAsciiDigit
  | _ => false

/-- Whether characters have the shape of a floating-point number. -/
def isFloat (cs : List Char) : Bool :=
  let body := unsigned cs
  if [".inf", ".Inf", ".INF"].contains (String.ofList body) then true
  else if [".nan", ".NaN", ".NAN"].contains (String.ofList cs) then true
  else
    match body.span (· != '.') with
    | (whole, '.' :: rest) =>
      let fraction := rest.takeWhile isDigitOrBar
      let tail := rest.dropWhile isDigitOrBar
      if whole.isEmpty then cs.head? = some '.' && startsWithDigit '0' fraction && isExponent tail
      else
        match whole.splitOn ':' with
        | [first] => startsWithDigit '0' first && isExponent tail
        | first :: more => startsWithDigit '0' first && more.all isSixtieth && tail.isEmpty
        | [] => false
    | _ => false

/-- The value of a digit: a decimal digit of any script or a letter of the Latin alphabet. -/
def digitValue? (c : Char) : Option Nat :=
  match Text.digitValue? c with
  | some value => some value
  | none =>
    if 'a' ≤ c && c ≤ 'z' then some (c.toNat - 'a'.toNat + 10)
    else if 'A' ≤ c && c ≤ 'Z' then some (c.toNat - 'A'.toNat + 10)
    else none

/-- The letter that may stand before the digits of a base, after a zero. -/
def baseLetter : Nat → Option Char
  | 2 => some 'b'
  | 8 => some 'o'
  | 16 => some 'x'
  | _ => none

/-- Digits without the letter of their base before them. -/
def withoutBase (base : Nat) : List Char → List Char
  | '0' :: letter :: rest =>
    if baseLetter base = some letter.toLower then rest else '0' :: letter :: rest
  | cs => cs

/-- How many digits of base ten stand in front. -/
def decimalCount (cs : List Char) : Nat :=
  (cs.takeWhile Text.isDigit).length

/-- The number that digits write in a base. Blanks around them and a sign are allowed. -/
def integerIn (base : Nat) (cs : List Char) : Except Fault Int :=
  let trimmed := Text.trimBlanks cs
  let digits := withoutBase base (unsigned trimmed)
  if base = 10 && Decimal.digitLimit < decimalCount digits then
    .error (.digits (.read (decimalCount digits)))
  else match digits.mapM digitValue? with
  | some values =>
    if values.isEmpty || values.any (base ≤ ·) then .error (.notInteger base (String.ofList cs))
    else
      let magnitude : Nat := values.foldl (fun n d => n * base + d) 0
      .ok (if isNegative trimmed then -(magnitude : Int) else magnitude)
  | none => .error (.notInteger base (String.ofList cs))

/-- The value of an integer after its sign. -/
def magnitude (cs : List Char) : Except Fault Int :=
  match cs with
  | [] => .error .emptyNumber
  | ['0'] => .ok 0
  | '0' :: 'b' :: digits => integerIn 2 digits
  | '0' :: 'x' :: digits => integerIn 16 digits
  | '0' :: digits => integerIn 8 ('0' :: digits)
  | _ =>
    if cs.contains ':' then do
      let digits ← (cs.splitOn ':').mapM (integerIn 10)
      return digits.foldl (fun n d => n * 60 + d) 0
    else integerIn 10 cs

/-- The value of an integer. -/
def integer (text : String) : Except Fault Int := do
  let cs := text.toList.filter (· != '_')
  if cs.isEmpty then throw .emptyNumber
  let n ← magnitude (unsigned cs)
  return if isNegative cs then -n else n

/-- The value of digits with at most one point among them; there has to be a digit. -/
def mantissa? (cs : List Char) : Option Decimal.Scientific := do
  let (whole, fraction) ←
    match cs.splitOn '.' with
    | [whole] => some (whole, [])
    | [whole, fraction] => some (whole, fraction)
    | _ => none
  if (whole ++ fraction).isEmpty || !(whole ++ fraction).all Text.isDigit then none
  else some ⟨Text.digitsValue (whole ++ fraction), -fraction.length⟩

/-- The value of an exponent. -/
def exponent? (cs : List Char) : Option Int :=
  let digits := unsigned cs
  if digits.isEmpty || !digits.all Text.isDigit then none
  else
    let n : Int := Text.digitsValue digits
    some (if isNegative cs then -n else n)

/-- The value of a decimal. Blanks around it and a sign are allowed, also words for infinity and
for what is no number. -/
def decimal? (cs : List Char) : Option Float := do
  let trimmed := Text.trimBlanks cs
  let body := unsigned trimmed
  let value : Float ←
    if ["inf", "infinity"].contains (String.ofList body) then some (1.0 / 0.0)
    else if body = ['n', 'a', 'n'] then some (0.0 / 0.0)
    else
      match body.splitOn 'e' with
      | [digits] => (mantissa? digits).map Decimal.Scientific.toFloat
      | [digits, power] => do
        let m ← mantissa? digits
        let power ← exponent? power
        some (Decimal.Scientific.toFloat ⟨m.digits, m.exponent + power⟩)
      | _ => none
  return if isNegative trimmed then -value else value

/-- The value of a decimal, which there has to be. -/
def decimal (cs : List Char) : Except Fault Float :=
  match decimal? cs with
  | some value => .ok value
  | none => .error (.notFloat (String.ofList cs))

/-- The value of parts between colons: the last counts ones, the one before it sixties, and so
on. -/
def sixtieths (parts : List Float) : Float :=
  (parts.reverse.foldl (fun (sum, base) part => (sum + part * base, base * 60)) (0.0, 1.0)).1

/-- The value of a floating-point number. -/
def float (text : String) : Except Fault Float := do
  let cs := Text.lowerFrom [] (text.toList.filter (· != '_'))
  if cs.isEmpty then throw .emptyNumber
  let body := unsigned cs
  let sign (x : Float) : Float := if isNegative cs then -x else x
  if body = ".inf".toList then return sign (1.0 / 0.0)
  else if body = ".nan".toList then return 0.0 / 0.0
  else if body.contains ':' then return sign (sixtieths (← (body.splitOn ':').mapM decimal))
  else return sign (← decimal body)

end ConfigTemplate.Yaml.Scalar
