import ConfigTemplate.Shell.Format
import ConfigTemplate.Shell.Programs.Basic

/-!
# Programs for numbers

The programs that count, that take numbers apart into factors, and that write numbers with units.
-/

namespace ConfigTemplate.Shell.Programs

open Text (Bytes)
open Run (bytesOf textOf)

/-- A decimal number: an integer, and how many of its digits stand after the point. -/
structure Amount where
  scaled : Int
  places : Nat

/-- A number as one writes it: its value, the width of its text, and how many digits after the point
it has; none for a number with an exponent. -/
structure Counted where
  value : Amount
  width : Nat
  places : Option Nat

namespace Amount

/-- The number times a power of ten. -/
def atScale (x : Amount) (places : Nat) : Int := x.scaled * Int.pow 10 (places - x.places)

/-- The text of an integer with a point before so many of its digits. -/
def text (places : Nat) (scaled : Int) : Bytes :=
  let digits := bytesOf (toString scaled.natAbs)
  let digits := List.replicate (places + 1 - digits.length) 48 ++ digits
  let whole := digits.take (digits.length - places)
  let body :=
    if places = 0 then whole else whole ++ 46 :: digits.drop (digits.length - places)
  if scaled < 0 then 45 :: body else body

end Amount

namespace Counted

/-- The number that a text writes. -/
def ofText? (text : Bytes) : Option Counted := do
  let (negative, body) : Bool × Bytes :=
    match text.dropWhile fun b => b = 32 with
    | 45 :: rest => (true, rest)
    | 43 :: rest => (false, rest)
    | body => (false, body)
  let signed (n : Nat) : Int := if negative then -(n : Int) else n
  match body with
  | 48 :: 120 :: digits =>
    let cs := digits.map fun b => Char.ofNat b.toNat
    if cs.isEmpty || !(Sum.digitsOf 16 cs).length = cs.length then none
    return ⟨⟨signed (Sum.numberIn 16 cs).toNat, 0⟩, text.length, none⟩
  | body =>
    let whole := body.takeWhile isDigit
    let (fraction, rest) : Bytes × Bytes :=
      match body.drop whole.length with
      | 46 :: rest => (rest.takeWhile isDigit, rest.dropWhile isDigit)
      | rest => ([], rest)
    if whole.isEmpty && fraction.isEmpty then none
    let n := signed (ofDigits (whole ++ fraction))
    match rest with
    | [] =>
      let sign : Nat := if negative then 1 else 0
      let width := sign + max whole.length 1 +
        (if fraction.isEmpty then 0 else fraction.length + 1)
      return ⟨⟨n, fraction.length⟩, width, some fraction.length⟩
    | e :: exponent =>
      if e != 101 && e != 69 then none
      let (down, digits) : Bool × Bytes :=
        match exponent with
        | 45 :: digits => (true, digits)
        | 43 :: digits => (false, digits)
        | digits => (false, digits)
      let k ← number? digits
      if 400 < k then none
      let value : Amount :=
        if down then ⟨n, fraction.length + k⟩
        else if fraction.length ≤ k then ⟨n * Int.pow 10 (k - fraction.length), 0⟩
        else ⟨n, fraction.length - k⟩
      return ⟨value, text.length, if down then none else some value.places⟩

end Counted

/-- A format for a number: the text before it, its layout, its letter, and the text after it. -/
structure NumberFormat where
  front : Bytes
  layout : Format.Layout
  letter : Char
  back : Bytes

/-- Text of a format with doubled percent signs made single, up to a conversion. -/
def plainFormat : Bytes → Bytes × Bytes
  | 37 :: 37 :: rest =>
    let (text, after) := plainFormat rest
    (37 :: text, after)
  | 37 :: rest => ([], 37 :: rest)
  | b :: rest =>
    let (text, after) := plainFormat rest
    (b :: text, after)
  | [] => ([], [])

/-- The format for a number that a text writes. -/
def NumberFormat.ofText (text : Bytes) : Except String NumberFormat :=
  let (front, conversion) := plainFormat text
  match conversion with
  | [] => .error s!"format {curly text} has no % directive"
  | _ :: rest =>
    let (layout, after, _) := Format.layoutOf rest ⟨[], [], [], false, none⟩
    match after with
    | [] => .error s!"format {curly text} ends in %"
    | letter :: after =>
      let c := Char.ofNat letter.toNat
      if !"fFeEgGaA".toList.contains c then
        .error s!"format {curly text} has unknown %{c} directive"
      else
        let (back, more) := plainFormat after
        if more.isEmpty then .ok ⟨front, layout, c, back⟩
        else .error s!"format {curly text} has too many % directives"

/-- Whether an argument is a number below zero. -/
def isNegativeNumber : Bytes → Bool
  | 45 :: b :: _ => isDigit b || b = 46
  | _ => false

/-- Arguments with a mark for the end of options before the first number below zero. -/
def guarded (arguments : List Bytes) : List Bytes :=
  let front := arguments.takeWhile (!isNegativeNumber ·)
  let rest := arguments.drop front.length
  if rest.isEmpty || front.contains [45, 45] then arguments else front ++ [45, 45] :: rest

/-- The numbers from one on by steps up to another one. -/
def countFrom (first step last : Int) : List Int :=
  if step = 0 then []
  else
    let count := (Int.fdiv (last - first) step + 1).toNat
    (List.range count).map fun (n : Nat) => first + n * step

/-- Count. -/
def sequence : Program := fun arguments => do
  let manual : Manual :=
    { name := "seq"
      anywhere := false
      choices := [valued 'f' "format", valued 's' "separator", flag 'w' "equal-width"] }
  let given ← manual.read (guarded arguments)
  let given := { given with operands := given.operands.filter (· ≠ [45, 45]) }
  if given.operands.isEmpty then misuse manual "missing operand"
  demandAtMost manual 3 given.operands
  let demandStep (place : Nat) (n : Counted) : Run Counted := do
    if place = 1 && given.operands.length = 3 && n.value.scaled = 0 then
      misuse manual s!"invalid Zero increment value: {curly (given.operands.getD 1 [])}"
    return n
  let numbers ← given.operands.zipIdx.mapM fun (text, place) => do
    match Counted.ofText? text with
    | some n => demandStep place n
    | none =>
      if lowerText text = "nan" then
        misuse manual s!"invalid ‘not-a-number’ argument: {curly text}"
      else if lowerText text = "inf" then
        return ⟨⟨1000000, 0⟩, 3, some 0⟩
      else misuse manual s!"invalid floating point argument: {curly text}"
  let one : Counted := ⟨⟨1, 0⟩, 1, some 0⟩
  let (first, step, last) : Counted × Counted × Counted :=
    match numbers with
    | [last] => (one, one, last)
    | [first, last] => (first, one, last)
    | first :: step :: last :: _ => (first, step, last)
    | [] => (one, one, one)
  let format ← (given.value? "f").mapM fun text => do
    match NumberFormat.ofText text with
    | .ok format => return format
    | .error complaint => fail 1 s!"seq: {complaint}"
  if format.isSome && given.has "w" then
    misuse manual "format string may not be specified when printing equal width strings"
  let scale := max (max first.value.places step.value.places) last.value.places
  let values :=
    countFrom (first.value.atScale scale) (step.value.atScale scale) (last.value.atScale scale)
  let places := max first.value.places step.value.places
  let widthOf (n : Counted) : Nat :=
    let own := n.places.getD 0
    n.width + (places - own) + (if own = 0 && places ≠ 0 then 1 else 0)
  let width :=
    let lastPlaces := last.places.getD 0
    let lastWidth :=
      if lastPlaces ≤ places then widthOf last
      else last.width - (lastPlaces - places) - (if places = 0 then 1 else 0)
    max (widthOf first) lastWidth
  let shown (n : Int) : Bytes :=
    match format with
    | some format =>
      let x := Float.ofInt n / Float.ofInt (Int.pow 10 scale)
      format.front ++ Format.real format.layout format.letter x ++ format.back
    | none =>
      let text := Amount.text places (Int.tdiv n (Int.pow 10 (scale - places)))
      if given.has "w" then
        let sign : Bytes := if n < 0 then [45] else []
        let digits := text.drop sign.length
        sign ++ List.replicate (width - text.length) 48 ++ digits
      else text
  let separator := (given.value? "s").getD [10]
  if !values.isEmpty then
    Run.write 1 (separator.intercalate (values.map shown) ++ [10])
  return 0
where
  /-- A text in small letters. -/
  lowerText (text : Bytes) : String := (textOf text).toLower

/-- The factors of a number that are at least so great, of those that can be found in so many
steps. -/
def factorsFrom : Nat → Nat → Nat → List Nat
  | 0, _, n => if n ≤ 1 then [] else [n]
  | fuel + 1, d, n =>
    if n ≤ 1 then []
    else if n < d * d then [n]
    else if n % d = 0 then d :: factorsFrom fuel d (n / d)
    else factorsFrom fuel (if d = 2 then 3 else d + 2) n

/-- The number of steps in which factors are looked for. -/
def mostFactorSteps : Nat := 2000000

/-- Take numbers apart into their factors. -/
def factor : Program := fun arguments => do
  let manual : Manual := { name := "factor", choices := [flag 'h' "exponents"] }
  let given ← manual.read arguments
  let texts ←
    if given.operands.isEmpty then
      match ← Run.readAll 0 with
      | .ok content =>
        pure ((content.splitOnP fun b => b = 32 || (9 ≤ b && b ≤ 13)).filter (!·.isEmpty))
      | .error fault => fail 1 s!"factor: error reading input: {fault.message}"
    else pure given.operands
  forEach texts fun text => do
    let body := text.dropWhile (· = 32)
    let digits := if body.head? = some 43 then body.drop 1 else body
    match number? digits with
    | none =>
      Run.complainPlain s!"factor: {curly text} is not a valid positive integer"
      return 1
    | some n =>
      let factors := factorsFrom mostFactorSteps 2 n
      Run.write 1 (bytesOf (s!"{n}:" ++ String.join (factors.map fun f => s!" {f}") ++ "\n"))
      return 0

/-- The kinds of units: powers of 1000, powers of 1024, or those with a further letter. -/
structure UnitKind where
  base : Nat
  further : String

/-- The kind of units of a name. -/
def unitKind? (name : Bytes) : Option (Option UnitKind) :=
  match textOf name with
  | "none" => some none
  | "si" => some (some ⟨1000, ""⟩)
  | "iec" => some (some ⟨1024, ""⟩)
  | "iec-i" => some (some ⟨1024, "i"⟩)
  | _ => none

/-- The letters of units by their powers. -/
def unitLetters : List Char := "KMGTPEZYRQ".toList

/-- A quotient rounded: away from zero as a rule. -/
def roundedBy (rule : String) (numerator denominator : Int) : Int :=
  let floor := Int.fdiv numerator denominator
  let ceiling := -Int.fdiv (-numerator) denominator
  match rule with
  | "up" => ceiling
  | "down" => floor
  | "towards-zero" => Int.tdiv numerator denominator
  | "nearest" =>
    let doubled := Int.fdiv (2 * numerator.natAbs + denominator) (2 * denominator)
    if numerator < 0 then -doubled else doubled
  | _ => if numerator < 0 then floor else ceiling

/-- The power of a unit that a number is written with. -/
def powerOf (base : Nat) (scaled unit : Nat) : Nat → Nat
  | 0 => 0
  | fuel + 1 => if scaled < base * unit then 0 else powerOf base scaled (unit * base) fuel + 1

/-- A number with a unit. -/
def withUnit (kind : UnitKind) (rule : String) (x : Amount) : String :=
  let one : Nat := Nat.pow 10 x.places
  let power := powerOf kind.base x.scaled.natAbs one 10
  let unit : Int := one * kind.base.pow power
  let tenths := roundedBy rule (x.scaled * 10) unit
  let isSmall := x.scaled.natAbs < 10 * unit.natAbs
  let whole := roundedBy rule x.scaled unit
  let (power, digits) : Nat × String :=
    if isSmall && tenths.natAbs < 100 then
      (power, if power = 0 then (if tenths % 10 = 0 then toString (tenths / 10)
        else textOf (Amount.text 1 tenths)) else textOf (Amount.text 1 tenths))
    else
      let n := if isSmall then Int.tdiv tenths 10 else whole
      if kind.base ≤ n.natAbs then
        (power + 1, if n < 0 then "-1.0" else "1.0")
      else (power, toString n)
  let letter := if power = 0 then "" else
    String.singleton (unitLetters.getD (power - 1) '?') ++ kind.further
  digits ++ letter

/-- The number that a text writes with a unit. -/
def ofUnit (kind : Option UnitKind) (isAuto : Bool) (text : Bytes) : Except String Amount := do
  let sign : Bytes := if text.head? = some 45 then [45] else []
  let body := text.drop sign.length
  let whole := body.takeWhile isDigit
  let rest := body.drop whole.length
  let (fraction, rest) : Bytes × Bytes :=
    match rest with
    | 46 :: more => (more.takeWhile isDigit, more.dropWhile isDigit)
    | rest => ([], rest)
  if whole.isEmpty then throw s!"invalid number: {curly text}"
  let n : Int := ofDigits (whole ++ fraction)
  let n := if sign.isEmpty then n else -n
  match rest.map fun b => Char.ofNat b.toNat with
  | [] => return ⟨n, fraction.length⟩
  | c :: more =>
    match unitLetters.idxOf? (if c = 'k' then 'K' else c) with
    | none => throw s!"invalid suffix in input: {curly text}"
    | some place =>
      let base : Option Nat :=
        if isAuto then some (if more = ['i'] then 1024 else 1000)
        else
          match kind with
          | none => none
          | some kind => some kind.base
      match base with
      | none =>
        throw s!"rejecting suffix in input: {curly text} (consider using --from)"
      | some base =>
        let wanted := (kind.map UnitKind.further).getD ""
        if !isAuto && String.ofList more != wanted then
          throw s!"invalid suffix in input: {curly text}"
        return ⟨n * base.pow (place + 1), fraction.length⟩

/-- Write numbers with units, or without them. -/
def formatNumbers : Program := fun arguments => do
  let manual : Manual :=
    { name := "numfmt"
      choices := [long "from" .required, long "to" .required, long "suffix" .required,
        long "padding" .required, long "field" .required, long "round" .required,
        long "grouping" .none, long "header" .optional, long "format" .required,
        long "invalid" .required, valued 'd' "delimiter", flag 'z' "zero-terminated"] }
  let given ← manual.read arguments
  let kindOf (key : String) : Run (Option UnitKind × Bool) := do
    match given.value? key with
    | none => return (none, false)
    | some name =>
      if key = "from" && textOf name = "auto" then return (none, true)
      match unitKind? name with
      | some kind => return (kind, false)
      | none =>
        let auto := if key = "from" then "\n  - ‘auto’" else ""
        misuse manual (s!"invalid argument {curly name} for ‘--{key}’\nValid arguments are:\n" ++
          s!"  - ‘none’{auto}\n  - ‘si’\n  - ‘iec’\n  - ‘iec-i’")
  let (fromKind, isAuto) ← kindOf "from"
  let (toKind, _) ← kindOf "to"
  let rule := ((given.value? "round").map textOf).getD "from-zero"
  let suffix := (given.value? "suffix").getD []
  let convert (text : Bytes) : Run Bytes := do
    let body := if suffix.isSuffixOf text then text.take (text.length - suffix.length) else text
    match ofUnit fromKind isAuto body with
    | .error complaint => fail 2 s!"numfmt: {complaint}"
    | .ok x =>
      let shown :=
        match toKind with
        | some kind => bytesOf (withUnit kind rule x)
        | none =>
          let places := if fromKind.isSome || isAuto then 0 else x.places
          Amount.text places (roundedBy rule x.scaled (Int.pow 10 (x.places - places)))
      let shown := shown ++ suffix
      match (given.value? "padding").map textOf with
      | none => return shown
      | some width =>
        if width.startsWith "-" then return padRight ((width.drop 1).toNat?.getD 0) shown
        else return padLeft (width.toNat?.getD 0) shown
  let field := ((given.value? "field").bind number?).getD 1
  let convertLine (line : Bytes) : Run Bytes := do
    let separator := (given.value? "d").bind List.head?
    let parts :=
      match separator with
      | some b => line.splitOn b
      | none => (line.splitOnP fun b => b = 32 || b = 9).filter (!·.isEmpty)
    let shown ← (parts.zipIdx 1).mapM fun (part, n) => if n = field then convert part else pure part
    return [separator.getD 32].intercalate shown
  if given.operands.isEmpty then
    match ← Run.readAll 0 with
    | .error _ => return 1
    | .ok content =>
      let skipped :=
        if given.has "header" then
          let text := (given.value? "header").getD []
          if text.isEmpty then 1 else (number? text).getD 1
        else 0
      for (line, n) in (linesOf content).zipIdx do
        Run.write 1 ((← if n < skipped then pure line else convertLine line) ++ [10])
  else
    for text in given.operands do
      Run.write 1 ((← convertLine text) ++ [10])
  return 0

end ConfigTemplate.Shell.Programs
