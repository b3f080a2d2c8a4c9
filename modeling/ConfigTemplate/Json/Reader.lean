import ConfigTemplate.Decimal.Style
import ConfigTemplate.Json.Basic
import ConfigTemplate.Text.Encoding

/-!
# Reading JSON text

A reader takes a value from the front of the remaining characters and says where it stopped. At
the first fault it stops with a problem and the position at fault. Beside the JSON grammar it
accepts the constants `NaN`, `Infinity` and `-Infinity`. A repeated key keeps its first place and
takes its last value.
-/

namespace ConfigTemplate.Json

/-- What is wrong with a text. -/
inductive Problem where
  | valueExpected
  | keyExpected
  | colonExpected
  | commaExpected
  | unterminatedString
  | controlCharacter
  | unknownEscape
  | incompleteEscape
  | extraData
  | byteOrderMark
  /-- An integer has too many digits. -/
  | digits (excess : Decimal.Excess)
  deriving DecidableEq, Repr

/-- The wording of a problem. -/
def Problem.message : Problem → String
  | valueExpected => "Expecting value"
  | keyExpected => "Expecting property name enclosed in double quotes"
  | colonExpected => "Expecting ':' delimiter"
  | commaExpected => "Expecting ',' delimiter"
  | unterminatedString => "Unterminated string starting at"
  | controlCharacter => "Invalid control character at"
  | unknownEscape => "Invalid \\escape"
  | incompleteEscape => "Invalid \\uXXXX escape"
  | extraData => "Extra data"
  | byteOrderMark => "Unexpected UTF-8 BOM (decode using utf-8-sig)"
  | digits excess => excess.message

/-- A problem and the position at fault, counted in characters from zero. -/
structure Fault where
  problem : Problem
  position : Nat
  deriving DecidableEq, Repr

/-- The line and the column of a position, both counted from one. -/
def lineColumn (text : List Char) (position : Nat) : Nat × Nat :=
  let before := text.take position
  let column := (before.reverse.takeWhile (· != '\n')).length
  (before.count '\n' + 1, column + 1)

namespace Reader

/-- The characters still to read and the position of the first of them. -/
structure Cursor where
  rest : List Char
  position : Nat
  deriving Repr

/-- What a reader gives: a result with the place where it stopped, or a fault. -/
abbrev Result (α : Type) := Except Fault (α × Cursor)

/-- The white space of the JSON grammar. -/
def isSpace (c : Char) : Bool := c = ' ' || c = '\t' || c = '\n' || c = '\r'

/-- An ASCII digit. -/
def isAsciiDigit (c : Char) : Bool := '0' ≤ c && c ≤ '9'

namespace Cursor

/-- Go past some characters. -/
def skip (c : Cursor) (count : Nat) : Cursor := ⟨c.rest.drop count, c.position + count⟩

/-- Go past white space. -/
def skipSpace (c : Cursor) : Cursor := c.skip (c.rest.takeWhile isSpace).length

/-- A fault at a cursor. -/
def fault {α : Type} (c : Cursor) (problem : Problem) : Result α := .error ⟨problem, c.position⟩

end Cursor

/-- The value of a hexadecimal digit. -/
def hexValue? (c : Char) : Option Nat :=
  if '0' ≤ c && c ≤ '9' then some (c.toNat - '0'.toNat)
  else if 'a' ≤ c && c ≤ 'f' then some (c.toNat - 'a'.toNat + 10)
  else if 'A' ≤ c && c ≤ 'F' then some (c.toNat - 'A'.toNat + 10)
  else none

/-- The number of four hexadecimal digits. -/
def hexUnit? (a b c d : Char) : Option Nat := do
  let a ← hexValue? a
  let b ← hexValue? b
  let c ← hexValue? c
  let d ← hexValue? d
  return ((a * 16 + b) * 16 + c) * 16 + d

/-- What a one-letter escape stands for. -/
def escapeValue? : Char → Option Char
  | '"' => some '"'
  | '\\' => some '\\'
  | '/' => some '/'
  | 'b' => some '\x08'
  | 'f' => some '\x0c'
  | 'n' => some '\n'
  | 'r' => some '\r'
  | 't' => some '\t'
  | _ => none

/-- The code points of a string up to its closing quote. `start` is the position of the opening
quote, `units` holds what was read so far, latest first. -/
def stringUnits (start : Nat) (units : List Nat) (position : Nat) :
    List Char → Except Fault (List Nat × Cursor)
  | [] => .error ⟨.unterminatedString, start⟩
  | '"' :: rest => .ok (units.reverse, ⟨rest, position + 1⟩)
  | ['\\'] => .error ⟨.unterminatedString, start⟩
  | '\\' :: 'u' :: a :: b :: c :: d :: rest =>
    match hexUnit? a b c d with
    | none => .error ⟨.incompleteEscape, position + 1⟩
    | some unit =>
      if rest.isEmpty then .error ⟨.incompleteEscape, position + 1⟩
      else stringUnits start (unit :: units) (position + 6) rest
  | '\\' :: c :: rest =>
    if c = 'u' then .error ⟨.incompleteEscape, position + 1⟩
    else
      match escapeValue? c with
      | none => .error ⟨.unknownEscape, position⟩
      | some value => stringUnits start (value.toNat :: units) (position + 2) rest
  | c :: rest =>
    if c.toNat < 0x20 then .error ⟨.controlCharacter, position⟩
    else stringUnits start (c.toNat :: units) (position + 1) rest

/-- The characters of code points, where a pair of surrogates makes one character. -/
def joinUnits : List Nat → List Char
  | [] => []
  | [unit] => [Text.Encoding.charOfPoint unit]
  | high :: low :: rest =>
    if 0xD800 ≤ high && high < 0xDC00 && 0xDC00 ≤ low && low < 0xE000 then
      Char.ofNat (0x10000 + (high - 0xD800) * 0x400 + (low - 0xDC00)) :: joinUnits rest
    else Text.Encoding.charOfPoint high :: joinUnits (low :: rest)

/-- A string, from after its opening quote. -/
def string (c : Cursor) : Result String :=
  match stringUnits (c.position - 1) [] c.position c.rest with
  | .error fault => .error fault
  | .ok (units, after) => .ok (String.ofList (joinUnits units), after)

/-- The parts of a number at the front of some characters: its digits before and after the point
and its exponent, each only as far as the grammar goes. -/
structure Numeral where
  negative : Bool
  whole : List Char
  fraction : List Char
  exponent : Option (Bool × List Char)

/-- How many characters an exponent takes with its sign. -/
def exponentOf (rest : List Char) : Option (Bool × List Char × Nat) :=
  match rest with
  | e :: more =>
    if e = 'e' || e = 'E' then
      let (negative, signs, digits) :=
        match more with
        | '-' :: ds => (true, 1, ds)
        | '+' :: ds => (false, 1, ds)
        | ds => (false, 0, ds)
      let digits := digits.takeWhile isAsciiDigit
      if digits.isEmpty then none else some (negative, digits, 1 + signs + digits.length)
    else none
  | [] => none

/-- The digits before the point: a zero alone, or digits that start with another one. -/
def wholePart : List Char → List Char
  | '0' :: _ => ['0']
  | cs => cs.takeWhile isAsciiDigit

/-- A numeral at the front of some characters and how many it takes. -/
def numeral? (cs : List Char) : Option (Numeral × Nat) :=
  let (negative, sign, body) :=
    match cs with
    | '-' :: rest => (true, 1, rest)
    | rest => (false, 0, rest)
  let whole := wholePart body
  if whole.isEmpty then none
  else
    let rest := body.drop whole.length
    let fraction :=
      match rest with
      | '.' :: more => more.takeWhile isAsciiDigit
      | _ => []
    let point := if fraction.isEmpty then 0 else 1 + fraction.length
    match exponentOf (rest.drop point) with
    | none => some (⟨negative, whole, fraction, none⟩, sign + whole.length + point)
    | some (down, digits, count) =>
      some (⟨negative, whole, fraction, some (down, digits)⟩, sign + whole.length + point + count)

/-- The number that ASCII digits write. -/
def digitsValue (digits : List Char) : Nat :=
  digits.foldl (fun n c => 10 * n + (c.toNat - '0'.toNat)) 0

/-- Whether a numeral is an integer: it has neither a fraction nor an exponent. -/
def Numeral.isInteger (n : Numeral) : Bool := n.fraction.isEmpty && n.exponent.isNone

/-- The value of a numeral. -/
def Numeral.value (n : Numeral) : Json :=
  if n.isInteger then
    let magnitude : Int := digitsValue n.whole
    .int (if n.negative then -magnitude else magnitude)
  else
    let power : Int :=
      match n.exponent with
      | none => 0
      | some (down, digits) => if down then -(digitsValue digits : Int) else digitsValue digits
    let decimal : Decimal.Scientific :=
      ⟨digitsValue (n.whole ++ n.fraction), power - n.fraction.length⟩
    .float (if n.negative then -decimal.toFloat else decimal.toFloat)

/-- The words that stand for a value. -/
def constants : List (String × Json) :=
  [("null", .null), ("true", .bool true), ("false", .bool false), ("NaN", .float (0.0 / 0.0)),
    ("Infinity", .float (1.0 / 0.0)), ("-Infinity", .float (-1.0 / 0.0))]

/-- A value that is neither a string nor a container. -/
def atom (c : Cursor) : Result Json :=
  match constants.find? fun (word, _) => word.toList.isPrefixOf c.rest with
  | some (word, value) => .ok (value, c.skip word.length)
  | none =>
    match numeral? c.rest with
    | some (n, count) =>
      if n.isInteger && Decimal.digitLimit < n.whole.length then
        c.fault (.digits (.read n.whole.length))
      else .ok (n.value, c.skip count)
    | none => c.fault .valueExpected

mutual

/-- A value at a cursor. The first argument bounds the nesting and the number of elements; twice
the number of characters is enough. -/
def value : Nat → Cursor → Result Json
  | 0, c => c.fault .valueExpected
  | fuel + 1, c =>
    match c.rest with
    | '"' :: _ =>
      match string (c.skip 1) with
      | .error fault => .error fault
      | .ok (s, after) => .ok (.str s, after)
    | '[' :: _ =>
      let inside := (c.skip 1).skipSpace
      if inside.rest.head? = some ']' then .ok (.arr [], inside.skip 1)
      else items fuel [] inside
    | '\x7b' :: _ =>
      let inside := (c.skip 1).skipSpace
      if inside.rest.head? = some '\x7d' then .ok (.obj [], inside.skip 1)
      else members fuel [] inside
    | _ => atom c

/-- The items of an array from one of them to the closing bracket. -/
def items : Nat → List Json → Cursor → Result Json
  | 0, _, c => c.fault .valueExpected
  | fuel + 1, before, c =>
    match value fuel c with
    | .error fault => .error fault
    | .ok (item, after) =>
      let stop := after.skipSpace
      match stop.rest with
      | ']' :: _ => .ok (.arr (before.reverse ++ [item]), stop.skip 1)
      | ',' :: _ => items fuel (item :: before) (stop.skip 1).skipSpace
      | _ => stop.fault .commaExpected

/-- The members of an object from one of them to the closing brace. -/
def members : Nat → List (String × Json) → Cursor → Result Json
  | 0, _, c => c.fault .keyExpected
  | fuel + 1, before, c =>
    match c.rest with
    | '"' :: _ =>
      match string (c.skip 1) with
      | .error fault => .error fault
      | .ok (key, after) =>
        let colon := after.skipSpace
        if colon.rest.head? = some ':' then
          match value fuel (colon.skip 1).skipSpace with
          | .error fault => .error fault
          | .ok (item, after) =>
            let stop := after.skipSpace
            let entries := Entries.put key item before
            match stop.rest with
            | '\x7d' :: _ => .ok (.obj entries, stop.skip 1)
            | ',' :: _ => members fuel entries (stop.skip 1).skipSpace
            | _ => stop.fault .commaExpected
        else colon.fault .colonExpected
    | _ => c.fault .keyExpected

end

end Reader

/-- The value that a whole text writes. -/
def ofChars (text : List Char) : Except Fault Json :=
  match Reader.value (2 * text.length + 2) (Reader.Cursor.mk text 0).skipSpace with
  | .error fault => .error fault
  | .ok (value, after) =>
    let stop := after.skipSpace
    if stop.rest.isEmpty then .ok value else .error ⟨.extraData, stop.position⟩

/-- The value that a text writes; a byte order mark before it is refused. -/
def ofText (text : String) : Except Fault Json :=
  match text.toList with
  | '\uFEFF' :: _ => .error ⟨.byteOrderMark, 0⟩
  | cs => ofChars cs

end ConfigTemplate.Json
