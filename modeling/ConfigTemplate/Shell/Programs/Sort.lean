import ConfigTemplate.Decimal.Front
import ConfigTemplate.Shell.Programs.Columns
import ConfigTemplate.Shell.Programs.Versions

/-!
# Sorting

The programs that bring lines into an order: by the bytes of whole lines or of fields of them, by
the numbers, months or versions that they begin with, or so that some words come before others.
-/

namespace ConfigTemplate.Shell.Programs

open Text (Bytes)
open Run (bytesOf textOf)

/-- How texts are compared. -/
inductive Comparison where
  | bytes
  | number
  | real
  | size
  | month
  | version
  deriving DecidableEq, Repr

/-- A number with a fraction: its sign, its whole part, and the digits after the point. -/
structure Fraction where
  negative : Bool
  whole : Nat
  digits : Bytes

namespace Fraction

/-- The number at the front of a text, and what follows it. -/
def ofText (text : Bytes) : Fraction × Bytes :=
  let body := text.dropWhile fun b => b = 32 || b = 9
  let (negative, body) : Bool × Bytes :=
    match body with
    | 45 :: rest => (true, rest)
    | body => (false, body)
  let whole := body.takeWhile isDigit
  match body.drop whole.length with
  | 46 :: rest =>
    let digits := rest.takeWhile isDigit
    (⟨negative, ofDigits whole, digits⟩, rest.drop digits.length)
  | rest => (⟨negative, ofDigits whole, []⟩, rest)

/-- The number times a power of ten. -/
def scaled (x : Fraction) (places : Nat) : Int :=
  let n := x.whole * Nat.pow 10 places +
    ofDigits x.digits * Nat.pow 10 (places - x.digits.length)
  if x.negative then -n else n

/-- The order of numbers. -/
def order (x y : Fraction) : Ordering :=
  let places := max x.digits.length y.digits.length
  compare (x.scaled places) (y.scaled places)

end Fraction

/-- The place of a month in a year by its first letters; zero for other texts. -/
def monthOf (text : Bytes) : Nat :=
  let word := textOf (lowered ((text.dropWhile fun b => b = 32 || b = 9).take 3))
  match ["jan", "feb", "mar", "apr", "may", "jun", "jul", "aug", "sep", "oct", "nov",
    "dec"].idxOf? word with
  | some n => n + 1
  | none => 0

/-- The order of texts by the numbers at their fronts: texts without one come first, then those
whose number is none. -/
def realOrder (a b : Bytes) : Ordering :=
  let number? (text : Bytes) : Option Float :=
    (Decimal.Front.number? ((text.dropWhile isSpace).map fun b => Char.ofNat b.toNat)).map (·.1)
  match number? a, number? b with
  | none, none => .eq
  | none, some _ => .lt
  | some _, none => .gt
  | some x, some y =>
    if x < y then .lt
    else if y < x then .gt
    else compare (if x.isNaN then 0 else 1) (if y.isNaN then 0 else 1 : Nat)

/-- The order of texts by numbers with units after them. -/
def sizeOrder (a b : Bytes) : Ordering :=
  let (x, afterX) := Fraction.ofText a
  let (y, afterY) := Fraction.ofText b
  let unit (number : Fraction) (rest : Bytes) : Int :=
    let place : Nat :=
      match rest with
      | c :: _ =>
        (("KMGTPEZY".toList.idxOf? (Char.ofNat c.toNat).toUpper).map (· + 1)).getD 0
      | [] => 0
    let isZero := number.whole = 0 && number.digits.all (· = 48)
    if isZero then 0 else if number.negative then -(place : Int) - 1 else place + 1
  match compare (unit x afterX) (unit y afterY) with
  | .eq => x.order y
  | order => order

/-- How a part of lines is ordered. -/
structure Ordered where
  comparison : Comparison
  reverse : Bool
  ignoresCase : Bool
  /-- Whether only blanks, letters and digits count. -/
  dictionary : Bool
  /-- Whether only bytes that can be printed count. -/
  printable : Bool
  deriving DecidableEq

namespace Ordered

/-- What some letters ask for. -/
def ofLetters (letters : List Char) : Ordered :=
  let comparison : Comparison :=
    letters.foldl (fun comparison c =>
      match c with
      | 'n' => .number
      | 'g' => .real
      | 'h' => .size
      | 'M' => .month
      | 'V' => .version
      | _ => comparison) .bytes
  ⟨comparison, letters.contains 'r', letters.contains 'f', letters.contains 'd',
    letters.contains 'i'⟩

/-- A text with all that does not count left out. -/
def shape (o : Ordered) (text : Bytes) : Bytes :=
  let text :=
    if o.dictionary then
      text.filter fun b => b = 32 || b = 9 || isDigit b || Versions.isLetter b
    else text
  let text := if o.printable then text.filter fun b => 32 ≤ b && b ≤ 126 else text
  if o.ignoresCase then text.map fun b => if 97 ≤ b && b ≤ 122 then b - 32 else b else text

/-- The order of bytes. -/
def byteOrder (a b : Bytes) : Ordering := if a = b then .eq else if bytesLe a b then .lt else .gt

/-- The order of two texts. -/
def order (o : Ordered) (a b : Bytes) : Ordering :=
  let plain : Ordering :=
    match o.comparison with
    | .bytes => byteOrder (o.shape a) (o.shape b)
    | .number => (Fraction.ofText a).1.order (Fraction.ofText b).1
    | .real => realOrder a b
    | .size => sizeOrder a b
    | .month => compare (monthOf a) (monthOf b)
    | .version => Versions.order a b
  if o.reverse then plain.swap else plain

end Ordered

/-- The place in a line where a key begins or ends: a field and a character in it, and whether
blanks before the character do not count. -/
structure KeyPlace where
  field : Nat
  char : Nat
  skipsBlanks : Bool

/-- A key by which lines are sorted: where it begins and ends, and its letters. -/
structure SortKey where
  start : KeyPlace
  stop : Option KeyPlace
  letters : List Char

namespace SortKey

/-- White space between fields. -/
def isBlank (b : UInt8) : Bool := b = 32 || b = 9 || b = 10

/-- A line from the beginning of a field on. -/
def fromField (separator : Option UInt8) : Nat → Bytes → Bytes
  | 0, line => line
  | n + 1, line =>
    match separator with
    | some b =>
      let rest := line.dropWhile (· != b)
      fromField separator n (rest.drop 1)
    | none => fromField separator n ((line.dropWhile isBlank).dropWhile (!isBlank ·))

/-- The number of bytes of a line before a key. -/
def startOf (separator : Option UInt8) (place : KeyPlace) (line : Bytes) : Nat :=
  let rest := fromField separator (place.field - 1) line
  let rest := if place.skipsBlanks then rest.dropWhile isBlank else rest
  line.length - (rest.drop (place.char - 1)).length

/-- The number of bytes of a line up to the end of a key. -/
def stopOf (separator : Option UInt8) (place : KeyPlace) (line : Bytes) : Nat :=
  if place.char = 0 then
    let rest := fromField separator place.field line
    let whole := line.length - rest.length
    match separator with
    | some b => if line.take whole |>.getLast?.any (· = b) then whole - 1 else whole
    | none => whole
  else
    let rest := fromField separator (place.field - 1) line
    let rest := if place.skipsBlanks then rest.dropWhile isBlank else rest
    line.length - (rest.drop place.char).length

/-- The part of a line that is the key. -/
def part (key : SortKey) (separator : Option UInt8) (line : Bytes) : Bytes :=
  let start := startOf separator key.start line
  let stop := (key.stop.map fun place => stopOf separator place line).getD line.length
  (line.take stop).drop start

/-- The place that a text begins with: a field, a character after a point, and letters. -/
def placeOf (whole text : Bytes) (isStop : Bool) :
    Except String (Nat × Nat × List Char × Bytes) := do
  let invalid (what : String) : String := s!"{what}: invalid field specification {curly whole}"
  let digits := text.takeWhile isDigit
  if digits.isEmpty then
    let side := if isStop then "after ','" else "at field start"
    throw s!"invalid number {side}: invalid count at start of {curly text}"
  if ofDigits digits = 0 then throw (invalid "field number is zero")
  let rest := text.drop digits.length
  let (char, rest) ←
    match rest with
    | 46 :: more => do
      let digitsC := more.takeWhile isDigit
      if digitsC.isEmpty then
        throw s!"invalid number after '.': invalid count at start of {curly more}"
      if ofDigits digitsC = 0 && !isStop then throw (invalid "character offset is zero")
      pure (ofDigits digitsC, more.drop digitsC.length)
    | rest => pure (if isStop then 0 else 1, rest)
  let letters := rest.takeWhile fun b =>
    "bdfghiMnRrV".toList.contains (Char.ofNat b.toNat)
  return (ofDigits digits, char, letters.map fun b => Char.ofNat b.toNat,
    rest.drop letters.length)

/-- The key that a text writes. -/
def ofText (text : Bytes) : Except String SortKey := do
  let stray : String :=
    s!"stray character in field spec: invalid field specification {curly text}"
  let (field, char, letters, rest) ← placeOf text text false
  let start : KeyPlace := ⟨field, char, letters.contains 'b'⟩
  match rest with
  | [] => return ⟨start, none, letters⟩
  | 44 :: more =>
    let (field, char, others, rest) ← placeOf text more true
    if !rest.isEmpty then throw stray
    return ⟨start, some ⟨field, char, others.contains 'b'⟩, letters ++ others⟩
  | _ => throw stray

end SortKey

/-- A way to sort lines. -/
structure Sorting where
  separator : Option UInt8
  /-- The keys with their orders. -/
  keys : List (SortKey × Ordered)
  /-- The order of whole lines where there are no keys. -/
  whole : Ordered
  skipsBlanks : Bool
  /-- Whether lines whose keys are alike are left as they are. -/
  isStable : Bool
  isUnique : Bool

namespace Sorting

/-- The order of lines by their keys. -/
def keyOrder (sorting : Sorting) (a b : Bytes) : Ordering :=
  if sorting.keys.isEmpty then
    let part (line : Bytes) : Bytes :=
      if sorting.skipsBlanks then line.dropWhile SortKey.isBlank else line
    sorting.whole.order (part a) (part b)
  else
    sorting.keys.foldl (fun found (key, ordered) =>
      match found with
      | .eq => ordered.order (key.part sorting.separator a) (key.part sorting.separator b)
      | found => found) .eq

/-- The order of lines. -/
def order (sorting : Sorting) (a b : Bytes) : Ordering :=
  match sorting.keyOrder a b with
  | .eq =>
    if sorting.isStable || sorting.isUnique then .eq
    else if sorting.whole.reverse then (Ordered.byteOrder a b).swap
    else Ordered.byteOrder a b
  | found => found

/-- Lines without those whose keys are like those of the line before. -/
def withoutLike (sorting : Sorting) (lines : List Bytes) : List Bytes :=
  if sorting.isUnique then
    (runsOf (fun a b => sorting.keyOrder a b = .eq) lines).filterMap List.head?
  else lines

/-- Lines in order. -/
def sorted (sorting : Sorting) (lines : List Bytes) : List Bytes :=
  sorting.withoutLike (lines.mergeSort fun a b => sorting.order a b != .gt)

/-- Two lists of lines in one, each line of the second one after those of the first one that do not
come after it. -/
def merged (sorting : Sorting) (first second : List Bytes) : List Bytes :=
  List.merge first second fun a b => sorting.order a b != .gt

/-- The first line that is not in order, with its place. -/
def disorder? (sorting : Sorting) : Nat → List Bytes → Option (Nat × Bytes)
  | place, a :: b :: rest =>
    let order := sorting.order a b
    if order = .gt || (sorting.isUnique && sorting.keyOrder a b = .eq) then some (place + 1, b)
    else disorder? sorting (place + 1) (b :: rest)
  | _, _ => none

end Sorting

/-- The letters of options that order lines. -/
def orderingLetters : List Char := "bdfghiMnRrV".toList

/-- Bring lines into order. -/
def sort : Program := fun arguments => do
  let manual : Manual :=
    { name := "sort"
      mistake := 2
      choices := [flag 'b' "ignore-leading-blanks", flag 'd' "dictionary-order",
        flag 'f' "ignore-case", flag 'g' "general-numeric-sort", flag 'h' "human-numeric-sort",
        flag 'i' "ignore-nonprinting", flag 'M' "month-sort", flag 'n' "numeric-sort",
        flag 'R' "random-sort", flag 'r' "reverse", flag 'V' "version-sort", flag 'c' "",
        flag 'C' "", long "check" .optional, valued 'k' "key", flag 'm' "merge",
        valued 'o' "output", flag 's' "stable", valued 'S' "buffer-size",
        valued 't' "field-separator", valued 'T' "temporary-directory", flag 'u' "unique",
        valued 'y' "", flag 'z' "zero-terminated", long "parallel" .required,
        long "random-source" .required, long "sort" .required, long "debug" .none,
        long "batch-size" .required] }
  let given ← manual.read arguments
  let refuse {α : Type} (text : String) : Run α := fail 2 s!"sort: {text}"
  let letters := orderingLetters.filter fun c => given.has (String.singleton c)
  let kinds := letters.filter "ghMnRV".toList.contains
  let separator : Option UInt8 ←
    match given.value? "t" with
    | none => pure none
    | some [] => refuse "empty tab"
    | some [b] => pure (some b)
    | some [92, 48] => pure (some 0)
    | some text => refuse s!"multi-character tab {curly text}"
  let keys ← (given.options.filter (·.1 = "k")).mapM fun (_, text) => do
    match SortKey.ofText text with
    | .error complaint => refuse complaint
    | .ok key =>
      if key.letters.isEmpty then
        let skips := letters.contains 'b'
        let wide (place : KeyPlace) : KeyPlace := { place with skipsBlanks := skips }
        return ({ key with start := wide key.start, stop := key.stop.map wide },
          Ordered.ofLetters letters)
      else return (key, Ordered.ofLetters key.letters)
  if 1 < kinds.length then
    refuse s!"options '-{String.ofList (kinds.mergeSort fun a b => a ≤ b)}' are incompatible"
  let sorting : Sorting :=
    { separator := separator, keys := keys, whole := Ordered.ofLetters letters
      skipsBlanks := letters.contains 'b', isStable := given.has "s", isUnique := given.has "u" }
  let ending : UInt8 := if given.has "z" then 0 else 10
  let names := if given.operands.isEmpty then [[45]] else given.operands
  let files ← names.mapM fun name => do
    match ← contentOf name with
    | .ok content => return partsBy ending content
    | .error fault =>
      if fault = Storage.wording .isDirectory then refuse s!"read failed: {named name}: {fault}"
      else refuse s!"cannot read: {named name}: {fault}"
  if given.has "c" || given.has "C" || given.has "check" then
    match sorting.disorder? 1 files.flatten with
    | none => return 0
    | some (place, line) =>
      if !given.has "C" then
        let name := textOf (names.headD [])
        Run.complainPlain s!"sort: {name}:{place}: disorder: {textOf line}"
      return 1
  let lines :=
    if given.has "m" then sorting.withoutLike (files.foldl sorting.merged [])
    else sorting.sorted files.flatten
  let output := lines.flatMap (· ++ [ending])
  match given.value? "o" with
  | none => Run.write 1 output
  | some target =>
    match ← Storage.write target false output with
    | .ok () => pure ()
    | .error fault => refuse s!"open failed: {textOf target}: {Storage.wording fault}"
  return 0

/-- The words of a text. -/
def wordsOf (text : Bytes) : List Bytes := (text.splitOnP isSpace).filter (!·.isEmpty)

/-- Pairs of neighbours. -/
def pairsOf {α : Type} : List α → List (α × α)
  | a :: b :: rest => (a, b) :: pairsOf rest
  | _ => []

/-- Words one after the other so that the first of a pair comes before the second. `waiting` holds
the words before which no other one has to come any more. The pairs that are left are those of
words that come before each other. -/
def precedence : Nat → List Bytes → List (Bytes × Bytes) → List Bytes × List (Bytes × Bytes)
  | 0, _, pairs => ([], pairs)
  | _ + 1, [], pairs => ([], pairs)
  | fuel + 1, word :: waiting, pairs =>
    let (own, others) := pairs.partition (·.1 = word)
    let freed := ((own.map (·.2)).reverse.foldl (fun (freed, left) next =>
      if freed.contains next || others.any (·.2 = next) then (freed, left)
      else (freed ++ [next], left)) (([] : List Bytes), ())).1
    let (order, left) := precedence fuel (waiting ++ freed) others
    (word :: order, left)

/-- Bring words into an order in which some come before others. -/
def topological : Program := fun arguments => do
  let manual : Manual := { name := "tsort", choices := [] }
  let given ← manual.read arguments
  demandAtMost manual 1 given.operands
  let name := given.operands.getD 0 [45]
  match ← contentOf name with
  | .error fault =>
    if fault = Storage.wording .isDirectory then fail 1 s!"tsort: {named name}: read error: {fault}"
    else fail 1 s!"tsort: {named name}: {fault}"
  | .ok content =>
    let words := wordsOf content
    if words.length % 2 = 1 then
      fail 1 s!"tsort: {named name}: input contains an odd number of tokens"
    let pairs := (pairsOf words).filter fun (a, b) => a != b
    let all := (words.eraseDups).mergeSort bytesLe
    let first := all.filter fun word => !pairs.any (·.2 = word)
    let (order, left) := precedence (words.length + 1) first pairs
    Run.write 1 (ofLines order)
    if left.isEmpty then return 0
    let rest := all.filter (!order.contains ·)
    Run.complainPlain s!"tsort: {named name}: input contains a loop:"
    for word in rest do
      Run.complainPlain s!"tsort: {textOf word}"
    Run.write 1 (ofLines rest)
    return 1

/-- Show lines in an order of no meaning, here the one that they have. -/
def shuffle : Program := fun arguments => do
  let manual : Manual :=
    { name := "shuf"
      choices := [flag 'e' "echo", valued 'i' "input-range", valued 'n' "head-count",
        valued 'o' "output", flag 'r' "repeat", flag 'z' "zero-terminated",
        long "random-source" .required] }
  let given ← manual.read arguments
  let lines ←
    if given.has "e" then pure given.operands
    else
      match given.value? "i" with
      | some text =>
        match (text.splitOn 45).map number? with
        | [some low, some high] =>
          pure ((List.range (high + 1 - low)).map fun n => bytesOf (toString (low + n)))
        | _ => fail 1 s!"shuf: invalid input range: {curly text}"
      | none =>
        let name := given.operands.getD 0 [45]
        match ← contentOf name with
        | .ok content => pure (linesOf content)
        | .error fault =>
          if fault = Storage.wording .isDirectory then fail 1 s!"shuf: read error: {fault}"
          else fail 1 s!"shuf: {named name}: {fault}"
  let count := ((given.value? "n").bind number?).getD lines.length
  Run.write 1 (ofLines (lines.take count))
  return 0

end ConfigTemplate.Shell.Programs
