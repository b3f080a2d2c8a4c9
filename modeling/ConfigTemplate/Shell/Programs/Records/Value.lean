import ConfigTemplate.Shell.Format
import ConfigTemplate.Shell.Programs.Columns

/-!
# The values of records

A program for records works on numbers and texts. A text that was read and that looks like a number
counts as one where values are compared, and as what it was where its text is asked for.
-/

namespace ConfigTemplate.Shell.Programs.Records

open Text (Bytes)
open Run (bytesOf textOf)

/-- A value. -/
inductive Value where
  /-- What a variable holds before it is given anything. -/
  | nothing
  | number (x : Float)
  | text (text : Bytes)
  /-- A text that was read, and the number that it looks like. -/
  | both (text : Bytes) (x : Float)

/-- The characters of bytes, one for each of them. -/
def charsOf (bytes : Bytes) : List Char := bytes.map fun b => Char.ofNat b.toNat

/-- The bytes of characters each of which stands for one. -/
def bytesIn (chars : List Char) : Bytes := chars.map fun c => UInt8.ofNat c.toNat

/-- The number that a text begins with, zero if there is none. -/
def front (text : Bytes) : Float :=
  match Decimal.Front.number? (charsOf text) with
  | some (x, _) => x
  | none => 0.0

/-- A blank between fields. -/
def isBlank (b : UInt8) : Bool := b = 32 || (9 ≤ b && b ≤ 13)

/-- A text that was read, as a number if it looks like one. -/
def ofRead (text : Bytes) : Value :=
  let body := (text.dropWhile isBlank).reverse.dropWhile isBlank |>.reverse
  let begins := body.head?.any fun b => isDigit b || b = 43 || b = 45 || b = 46
  let ends := body.getLast?.any fun b => isDigit b || b = 46
  if begins && ends then
    match Decimal.Front.number? (charsOf body) with
    | some (x, []) => .both text x
    | _ => .text text
  else .text text

/-- The whole number that a number is, if it is one that is written without an exponent. -/
def whole? (x : Float) : Option Int :=
  if x.floor == x && -9223372036854775808.0 ≤ x && x < 18446744073709551615.0 then
    some (if x < 0.0 then -((-x).toUInt64.toNat : Int) else (x.toUInt64.toNat : Int))
  else if x == 18446744073709551616.0 then some 18446744073709551615
  else none

/-- A number within the limits of whole numbers. -/
def bounded (x : Float) : Int :=
  if x.isNaN then -9223372036854775808
  else if 18446744073709551615.0 ≤ x then 18446744073709551615
  else if 0.0 ≤ x then (x.floor.toUInt64.toNat : Int)
  else if x ≤ -9223372036854775807.0 then -9223372036854775807
  else -((-x).floor.toUInt64.toNat : Int)

namespace Value

/-- The number of a value. -/
def toNumber : Value → Float
  | .nothing => 0.0
  | .number x | .both _ x => x
  | .text t => front t

/-- Whether a value counts as true. -/
def isTrue : Value → Bool
  | .nothing => false
  | .number x | .both _ x => x != 0.0
  | .text t => !t.isEmpty

/-- The value of a truth. -/
def ofBool (b : Bool) : Value := .number (if b then 1.0 else 0.0)

/-- The value of a count. -/
def ofNat (n : Nat) : Value := .number (Float.ofNat n)

end Value

/-- Why a format cannot be used. -/
inductive FormatFault where
  | tooFew
  /-- A conversion that there is not, by its number. -/
  | improper (number : Nat)

/-- The layout that the bytes after a percent sign ask for, what follows them, and the values that
are left; none if there are too few of them. -/
def layoutOf? (format : Bytes) (values : List Value) :
    Option (Format.Layout × Bytes × List Value) := do
  let isFlag (b : UInt8) : Bool := "#-+ 0".toList.any fun c => Format.byte c = b
  let flags := format.takeWhile isFlag
  let rest := format.dropWhile isFlag
  let has (c : Char) : Bool := flags.contains (Format.byte c)
  let (width, left, rest, values) : Nat × Bool × Bytes × List Value ←
    match rest, values with
    | 42 :: rest, value :: values =>
      let n := bounded value.toNumber
      some (n.natAbs, decide (n < 0), rest, values)
    | 42 :: _, [] => none
    | _, _ => some (ofDigits (rest.takeWhile isDigit), false, rest.dropWhile isDigit, values)
  let base : Format.Layout := ⟨has '-' || left, has '0', has '+', has ' ', has '#', width, none⟩
  let (layout, rest, values) : Format.Layout × Bytes × List Value ←
    match rest, values with
    | 46 :: 42 :: rest, value :: values =>
      let n := bounded value.toNumber
      some ({ base with precision := if n < 0 then none else some n.toNat }, rest, values)
    | 46 :: 42 :: _, [] => none
    | 46 :: rest, _ =>
      some ({ base with precision := some (ofDigits (rest.takeWhile isDigit)) },
        rest.dropWhile isDigit, values)
    | _, _ => some (base, rest, values)
  let isSize (b : UInt8) : Bool := "hlLqjzt".toList.any fun c => Format.byte c = b
  return (layout, rest.dropWhile isSize, values)

/-- The text of a value by the letter of a conversion; `textOf` gives the text of a number. -/
def converted? (textOf : Float → Bytes) (layout : Format.Layout) (letter : Char) (value : Value) :
    Option Bytes :=
  let cut (text : Bytes) : Bytes :=
    match layout.precision with
    | some most => text.take most
    | none => text
  let unsigned (base : Nat) (upper : Bool) (marks : Bytes) : Option Bytes :=
    let n := bounded value.toNumber
    let marks := if layout.alternative && n ≠ 0 then marks else []
    some (layout.number marks (Format.digitsIn base upper (n % 18446744073709551616).toNat))
  match letter with
  | 's' =>
    let text : Bytes :=
      match value with
      | .nothing => []
      | .text text | .both text _ => text
      | .number x => textOf x
    some (layout.fill (cut text))
  | 'c' =>
    let b : UInt8 :=
      match value with
      | .nothing => 0
      | .text text => text.headD 0
      | .number x | .both _ x => UInt8.ofNat (bounded x % 256).toNat
    some (layout.fill [b])
  | 'd' | 'i' =>
    let n := bounded value.toNumber
    some (layout.number (layout.sign (n < 0)) (Format.digitsIn 10 false n.natAbs))
  | 'u' => unsigned 10 false []
  | 'o' => unsigned 8 false [48]
  | 'x' => unsigned 16 false (bytesOf "0x")
  | 'X' => unsigned 16 true (bytesOf "0X")
  | 'f' | 'F' | 'e' | 'E' | 'g' | 'G' | 'a' | 'A' =>
    some (Format.real layout letter value.toNumber)
  | _ => none

/-- The text of values in a format as far as it comes, and what is wrong with it. So many
conversions have been made before. -/
def formattedFrom (textOf : Float → Bytes) : Nat → Nat → Bytes → List Value →
    Bytes × Option FormatFault
  | 0, _, _, _ => ([], none)
  | _ + 1, _, [], _ => ([], none)
  | fuel + 1, made, b :: rest, values =>
    if b ≠ 37 then
      let (text, fault) := formattedFrom textOf fuel made rest values
      (b :: text, fault)
    else
      match rest with
      | 37 :: rest =>
        let (text, fault) := formattedFrom textOf fuel made rest values
        (37 :: text, fault)
      | _ =>
        match layoutOf? rest values with
        | none => ([], some .tooFew)
        | some (layout, after, values) =>
          match after, values with
          | [], _ => ([], some (.improper (made + 1)))
          | letter :: rest, value :: values =>
            match converted? textOf layout (Char.ofNat letter.toNat) value with
            | none => ([], some (.improper (made + 1)))
            | some text =>
              let (more, fault) := formattedFrom textOf fuel (made + 1) rest values
              (text ++ more, fault)
          | letter :: _, [] =>
            if (converted? textOf layout (Char.ofNat letter.toNat) .nothing).isNone then
              ([], some (.improper (made + 1)))
            else ([], some .tooFew)

/-- The text of values in a format as far as it comes, and what is wrong with it. -/
def formatted (textOf : Float → Bytes) (format : Bytes) (values : List Value) :
    Bytes × Option FormatFault :=
  formattedFrom textOf (format.length + 1) 0 format values

/-- The text of a number: without an exponent if it is a whole number, in a format otherwise. -/
def numberText (format : Bytes) (x : Float) : Bytes :=
  match whole? x with
  | some n => bytesOf (toString n)
  | none =>
    if x.isNaN then bytesOf "-nan" else (formatted (fun _ => []) format [.number x]).1

/-- The text of a value; `format` is for numbers that are not whole. -/
def Value.toText (format : Bytes) : Value → Bytes
  | .nothing => []
  | .text t | .both t _ => t
  | .number x => numberText format x

/-- How two values compare: as numbers if neither is a mere text, as texts otherwise. Nothing is
said of numbers that are none. -/
def compared (format : Bytes) (a b : Value) : Option Ordering :=
  let byText : Option Ordering :=
    let x := a.toText format
    let y := b.toText format
    some (if x = y then .eq else if bytesLe x y then .lt else .gt)
  match a, b with
  | .text _, _ | _, .text _ => byText
  | a, b =>
    let x := a.toNumber
    let y := b.toNumber
    if x == y then some .eq else if x < y then some .lt else if y < x then some .gt else none

end ConfigTemplate.Shell.Programs.Records
