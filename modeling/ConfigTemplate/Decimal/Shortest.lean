/-!
# Shortest decimals

A finite binary number stands for an interval of reals: those that round to it. Its shortest
decimal is the one with the fewest digits in that interval and, of several, the nearest. On each
decimal grid only the number's two neighbours need a test, because if any point of the grid lies
in the interval then one of them does.
-/

namespace ConfigTemplate.Decimal

/-- A positive binary number `mantissa * 2 ^ exponent`. When it is the least of its binade the gap
below it is half the gap above it. -/
structure Binary where
  mantissa : Nat
  exponent : Int
  leastOfBinade : Bool
  deriving Repr

/-- The decimal `digits * 10 ^ exponent`. -/
structure Scientific where
  digits : Nat
  exponent : Int
  deriving DecidableEq, Repr

namespace Binary

/-- The power of two to multiply by, for a number given in quarters. -/
def numeratorScale (b : Binary) : Nat := Nat.pow 2 b.exponent.toNat

/-- The denominator of a number given in quarters. -/
def denominator (b : Binary) : Nat := 4 * Nat.pow 2 (-b.exponent).toNat

/-- The number, as a numerator over `denominator`. -/
def value (b : Binary) : Nat := 4 * b.mantissa * b.numeratorScale

/-- The lower end of the interval, over `denominator`. -/
def low (b : Binary) : Nat :=
  (4 * b.mantissa - (if b.leastOfBinade then 1 else 2)) * b.numeratorScale

/-- The upper end of the interval, over `denominator`. -/
def high (b : Binary) : Nat := (4 * b.mantissa + 2) * b.numeratorScale

/-- Whether a fraction rounds to the number. The ends of the interval do when the mantissa is
even. -/
def contains (b : Binary) (num den : Nat) : Bool :=
  let x := num * b.denominator
  if b.mantissa % 2 = 0 then b.low * den ≤ x && x ≤ b.high * den
  else b.low * den < x && x < b.high * den

/-- The number of digits of a natural number, none for zero. -/
def digitCount (n : Nat) : Nat := if n = 0 then 0 else (Nat.toDigits 10 n).length

/-- The exponent of the leading decimal digit. -/
def leadingExponent (b : Binary) : Int :=
  if b.denominator ≤ b.value then (digitCount (b.value / b.denominator) : Int) - 1
  else -(digitCount ((b.denominator + b.value - 1) / b.value - 1) : Int)

/-- The fraction of one step of the grid `10 ^ k`. -/
def gridStep (k : Int) : Nat × Nat := (Nat.pow 10 k.toNat, Nat.pow 10 (-k).toNat)

/-- The number's nearest point on the grid `10 ^ k`, if one of its two neighbours there rounds to
it. A tie goes to the even point. -/
def onGrid? (b : Binary) (k : Int) : Option Scientific :=
  let (stepNum, stepDen) := gridStep k
  let below := b.value * stepDen / (b.denominator * stepNum)
  let rest := b.value * stepDen - below * (b.denominator * stepNum)
  let twice := 2 * rest
  let whole := b.denominator * stepNum
  let lower := b.contains (below * stepNum) stepDen
  let upper := b.contains ((below + 1) * stepNum) stepDen
  let nearer :=
    if twice < whole then below
    else if whole < twice then below + 1
    else if below % 2 = 0 then below else below + 1
  if lower && upper then some ⟨nearer, k⟩
  else if lower then some ⟨below, k⟩
  else if upper then some ⟨below + 1, k⟩
  else none

/-- The shortest decimal: the coarsest of the grids of one to seventeen digits that has a point in
the interval decides. Seventeen digits always suffice. -/
def shortest (b : Binary) : Scientific :=
  let lead := b.leadingExponent
  ((List.range 17).findSome? fun (n : Nat) => b.onGrid? (lead - n)).getD ⟨b.mantissa, 0⟩

end Binary

/-- A decimal without zeros at the end of its digits. -/
def Scientific.normalized (s : Scientific) : Scientific :=
  let zeros := ((Nat.toDigits 10 s.digits).reverse.takeWhile (· == '0')).length
  if s.digits = 0 then ⟨0, 0⟩ else ⟨s.digits / Nat.pow 10 zeros, s.exponent + zeros⟩

/-- A double-precision number taken apart: its sign and, when it is finite and not zero, its
magnitude. -/
inductive Parts where
  | nan
  | infinite (negative : Bool)
  | zero (negative : Bool)
  | finite (negative : Bool) (magnitude : Binary)
  deriving Repr

/-- The parts of a double-precision number, from its bits. -/
def Parts.ofFloat (x : Float) : Parts :=
  let bits := x.toBits.toNat
  let negative := decide (bits / Nat.pow 2 63 % 2 = 1)
  let field : Nat := bits / Nat.pow 2 52 % Nat.pow 2 11
  let fraction : Nat := bits % Nat.pow 2 52
  if field = 2047 then (if fraction = 0 then infinite negative else nan)
  else if field = 0 then
    if fraction = 0 then zero negative
    else finite negative ⟨fraction, -1074, false⟩
  else
    finite negative ⟨fraction + Nat.pow 2 52, (field : Int) - 1075, fraction = 0 && 1 < field⟩

end ConfigTemplate.Decimal
