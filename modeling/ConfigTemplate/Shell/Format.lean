import ConfigTemplate.Decimal.Front
import ConfigTemplate.Decimal.Rounded
import ConfigTemplate.Shell.Number
import ConfigTemplate.Shell.Stray

/-!
# Formatted output

What the commands that print text make of backslashes and of formats with percent signs. A format
is used again as long as there are arguments left.
-/

namespace ConfigTemplate.Shell.Format

open Text (Bytes)

/-- The byte of an ASCII character. -/
def byte (c : Char) : UInt8 := UInt8.ofNat c.toNat

/-- An octal digit. -/
def isOctal (b : UInt8) : Bool := byte '0' ≤ b && b ≤ byte '7'

/-- A decimal digit. -/
def isDecimal (b : UInt8) : Bool := byte '0' ≤ b && b ≤ byte '9'

/-- The number that digits write in a base. -/
def number (base : Nat) (digits : Bytes) : Nat :=
  digits.foldl (fun n b => n * base + (b.toNat - 48)) 0

/-- What one-letter escapes stand for. -/
def letters : List (Char × Nat) :=
  [('a', 7), ('b', 8), ('e', 27), ('f', 12), ('n', 10), ('r', 13), ('t', 9),
    ('v', 11), ('\\', 92)]

/-- What stands for an escape after its backslash, and what follows it. A backslash that escapes
nothing stands for itself. -/
def escape (rest : Bytes) : Bytes × Bytes :=
  match rest with
  | [] => ([92], [])
  | b :: more =>
    match letters.find? fun (c, _) => byte c = b with
    | some (_, code) => ([UInt8.ofNat code], more)
    | none =>
      let digits := (rest.take 3).takeWhile isOctal
      if digits.isEmpty then ([92], rest)
      else ([UInt8.ofNat (number 8 digits)], rest.drop digits.length)

/-- A text with its escapes, and whether one of them ends all output. An octal number may have a
zero before its three digits. -/
def escaped : Nat → Bytes → Bytes × Bool
  | 0, _ => ([], false)
  | _ + 1, [] => ([], false)
  | fuel + 1, b :: rest =>
    if b ≠ 92 then
      let (text, stops) := escaped fuel rest
      (b :: text, stops)
    else
      match rest with
      | c :: more =>
        if c = byte 'c' then ([], true)
        else
          let (taken, rest) :=
            if c = byte '0' then
              let digits := (more.take 3).takeWhile isOctal
              ([UInt8.ofNat (number 8 digits)], more.drop digits.length)
            else escape rest
          let (text, stops) := escaped fuel rest
          (taken ++ text, stops)
      | [] => ([92], false)

/-- Bytes between others. -/
def joined (separator : Bytes) (texts : List Bytes) : Bytes := separator.intercalate texts

/-- What the echo of some arguments is. -/
def echoed (arguments : List Bytes) : Bytes :=
  let (quiet, texts) :=
    match arguments with
    | [45, 110] :: rest => (true, rest)
    | texts => (false, texts)
  let all := joined [32] texts
  let (text, stops) := escaped (all.length + 1) all
  if quiet || stops then text else text ++ [10]

/-- How a value is laid out. -/
structure Layout where
  leftAligned : Bool
  zeros : Bool
  plus : Bool
  blank : Bool
  alternative : Bool
  width : Nat
  precision : Option Nat

/-- A text filled with blanks to its width. -/
def Layout.fill (layout : Layout) (text : Bytes) : Bytes :=
  let blanks := List.replicate (layout.width - text.length) 32
  if layout.leftAligned then text ++ blanks else blanks ++ text

/-- A number laid out: a sign or other marks before its digits, zeros between them. -/
def Layout.number (layout : Layout) (marks digits : Bytes) : Bytes :=
  match layout.precision with
  | some least =>
    layout.fill (marks ++ List.replicate (least - digits.length) 48 ++ digits)
  | none =>
    if layout.zeros && !layout.leftAligned then
      marks ++ List.replicate (layout.width - marks.length - digits.length) 48 ++ digits
    else layout.fill (marks ++ digits)

/-- The sign before a number. -/
def Layout.sign (layout : Layout) (negative : Bool) : Bytes :=
  if negative then [45] else if layout.plus then [43] else if layout.blank then [32] else []

/-- What is wrong with an argument that ought to be a number. -/
inductive Flaw where
  | noNumber
  | moreThanNumber
  | range
  deriving DecidableEq, Repr

/-- The wording of a flaw. -/
def Flaw.message : Flaw → String
  | noNumber => "expected numeric value"
  | moreThanNumber => "not completely converted"
  | range => "Numerical result out of range"

/-- The code of the character after a quote at the front of an argument. -/
def codeAfterQuote? (argument : Bytes) : Option Nat :=
  match argument with
  | 39 :: rest | 34 :: rest => some (rest.headD 0).toNat
  | _ => none

/-- What is wrong with an argument of which a number took so much that a rest is left. -/
def flawOf (argument rest : List Char) : Option Flaw :=
  if rest.isEmpty then none
  else if rest.length = argument.length then some .noNumber
  else some .moreThanNumber

/-- The whole number that an argument writes, not above a limit. -/
def numberOf (greatest : Int) (argument : Bytes) : Int × Option Flaw :=
  match codeAfterQuote? argument with
  | some code => (code, none)
  | none =>
    let cs := charsOf argument
    let (negative, body) := Number.signed cs
    if !body.head?.any Char.isDigit then (0, flawOf cs cs)
    else
      let (n, rest) := Sum.numeral body
      let n := if negative then -n else n
      let bounded := max (-Sum.greatest - 1) (min greatest n)
      (bounded, (flawOf cs rest).or (if bounded = n then none else some .range))

/-- The number with a fraction that an argument writes. -/
def realOf (argument : Bytes) : Float × Option Flaw :=
  match codeAfterQuote? argument with
  | some code => (Float.ofNat code, none)
  | none =>
    let cs := charsOf argument
    match Decimal.Front.number? cs with
    | some (x, rest) => (x, flawOf cs rest)
    | none => (0.0, flawOf cs cs)

/-- The digits of a number in a base. -/
def digitsIn (base : Nat) (upper : Bool) (n : Nat) : Bytes :=
  (Nat.toDigits base n).map fun c => byte (if upper then c.toUpper else c)

/-- The text of a positive number by the letter of a conversion. -/
def magnitudeText (layout : Layout) (letter : Char) (b : Decimal.Binary) : List Char :=
  let places := layout.precision.getD 6
  match letter with
  | 'e' => b.exponential places layout.alternative
  | 'g' => b.general places layout.alternative
  | 'a' => b.hexadecimal layout.precision layout.alternative
  | _ => b.fixed places layout.alternative

/-- The text of zero by the letter of a conversion. -/
def zeroText (layout : Layout) (letter : Char) : List Char :=
  let places := layout.precision.getD (if letter = 'a' then 0 else 6)
  let fixed (places : Nat) : List Char := Decimal.withPoint places layout.alternative ['0']
  match letter with
  | 'e' => fixed places ++ "e+00".toList
  | 'g' => if layout.alternative then fixed (max places 1 - 1) else ['0']
  | 'a' => "0x".toList ++ fixed places ++ "p+0".toList
  | _ => fixed places

/-- A number with a fraction laid out by the letter of a conversion. -/
def real (layout : Layout) (letter : Char) (x : Float) : Bytes :=
  let bare := { layout with precision := none }
  let small := letter.toLower
  let bytes (text : List Char) : Bytes :=
    text.map fun c => byte (if letter.isUpper then c.toUpper else c)
  match Decimal.Parts.ofFloat x with
  | .nan => bare.fill (layout.sign false ++ bytes "nan".toList)
  | .infinite negative => bare.fill (layout.sign negative ++ bytes "inf".toList)
  | .zero negative => bare.number (layout.sign negative) (bytes (zeroText layout small))
  | .finite negative magnitude =>
    bare.number (layout.sign negative) (bytes (magnitudeText layout small magnitude))

/-- The output of a format so far. -/
structure Output where
  text : Bytes
  /-- The complaints about arguments. -/
  complaints : List String
  /-- The arguments that are left. -/
  arguments : List Bytes
  /-- Whether an escape has ended all output. -/
  stopped : Bool
  /-- Why the format cannot be used any further. -/
  failure : Option String

/-- The text of bytes that a complaint shows. -/
def shown (bytes : Bytes) : String := String.ofList (Stray.decode bytes)

/-- The next argument, or nothing where none is left. -/
def Output.next (o : Output) : Bytes × Output :=
  match o.arguments with
  | [] => ([], o)
  | a :: rest => (a, { o with arguments := rest })

/-- Output with a complaint about an argument that has a flaw. -/
def Output.about (o : Output) (argument : Bytes) (flaw : Option Flaw) : Output :=
  match flaw with
  | none => o
  | some flaw =>
    { o with complaints := o.complaints ++ [s!"{shown argument}: {flaw.message}"] }

/-- The number of the next argument, not above a limit. -/
def Output.nextNumber (greatest : Int) (o : Output) : Int × Output :=
  let (argument, o) := o.next
  let (n, flaw) := numberOf greatest argument
  (n, o.about argument flaw)

/-- Output with more text. -/
def Output.add (o : Output) (text : Bytes) : Output := { o with text := o.text ++ text }

/-- The layout that the characters after a percent sign ask for, and what follows them. -/
def layoutOf (cs : Bytes) (o : Output) : Layout × Bytes × Output :=
  let isFlag (b : UInt8) : Bool := "#-+ 0".toList.any fun c => byte c = b
  let flags := cs.takeWhile isFlag
  let rest := cs.dropWhile isFlag
  let has (c : Char) : Bool := flags.contains (byte c)
  let (width, left, rest, o) : Nat × Bool × Bytes × Output :=
    match rest with
    | 42 :: rest =>
      let (n, o) := o.nextNumber Sum.greatest
      (n.natAbs, n < 0, rest, o)
    | _ => (number 10 (rest.takeWhile isDecimal), false, rest.dropWhile isDecimal, o)
  let base : Layout := ⟨has '-' || left, has '0', has '+', has ' ', has '#', width, none⟩
  match rest with
  | 46 :: 42 :: rest =>
    let (n, o) := o.nextNumber Sum.greatest
    ({ base with precision := if n < 0 then none else some n.toNat }, rest, o)
  | 46 :: rest =>
    ({ base with precision := some (number 10 (rest.takeWhile isDecimal)) },
      rest.dropWhile isDecimal, o)
  | _ => (base, rest, o)

/-- The output of a conversion by its letter; none for a letter that is no conversion. -/
def convert (layout : Layout) (letter : Char) (o : Output) : Option Output :=
  let cut (text : Bytes) : Bytes :=
    match layout.precision with
    | some most => text.take most
    | none => text
  let unsigned (base : Nat) (upper : Bool) (marks : Bytes) : Option Output :=
    let (n, o) := o.nextNumber (Nat.pow 2 64 - 1)
    let marks := if layout.alternative && n ≠ 0 then marks else []
    some (o.add (layout.number marks (digitsIn base upper (Sum.bits n))))
  match letter with
  | 's' =>
    let (text, o) := o.next
    some (o.add (layout.fill (cut text)))
  | 'b' =>
    let (text, o) := o.next
    let (text, stops) := escaped (text.length + 1) text
    some { o.add (layout.fill (cut text)) with stopped := stops }
  | 'c' =>
    let (text, o) := o.next
    some (o.add (layout.fill [text.headD 0]))
  | 'd' | 'i' =>
    let (n, o) := o.nextNumber Sum.greatest
    some (o.add (layout.number (layout.sign (n < 0)) (digitsIn 10 false n.natAbs)))
  | 'u' => unsigned 10 false []
  | 'o' => unsigned 8 false [48]
  | 'x' => unsigned 16 false [48, byte 'x']
  | 'X' => unsigned 16 true [48, byte 'X']
  | 'f' | 'F' | 'e' | 'E' | 'g' | 'G' | 'a' | 'A' =>
    let (argument, o) := o.next
    let (x, flaw) := realOf argument
    some ((o.about argument flaw).add (real layout letter x))
  | _ => none

/-- The output of a format used once, as far as it can be used. -/
def once : Nat → Bytes → Output → Output
  | 0, _, o => o
  | _ + 1, [], o => o
  | fuel + 1, b :: rest, o =>
    if o.stopped then o
    else if b = 92 then
      let (text, rest) := escape rest
      once fuel rest (o.add text)
    else if b = 37 then
      match rest with
      | 37 :: rest => once fuel rest (o.add [37])
      | _ =>
        let (layout, after, o) := layoutOf rest o
        match after with
        | [] => { o with failure := some "missing format character" }
        | letter :: rest' =>
          match convert layout (Char.ofNat letter.toNat) o with
          | some o => once fuel rest' o
          | none =>
            let directive := (b :: rest).take (rest.length - rest'.length + 1)
            { o with failure := some s!"{shown directive}: invalid directive" }
    else once fuel rest (o.add [b])

/-- The output of a format used until no argument is left. A format that takes no argument is used
once. -/
def repeated (format : Bytes) : Nat → Output → Output
  | 0, o => o
  | fuel + 1, o =>
    let after := once (format.length + 1) format o
    if after.stopped || after.failure.isSome || after.arguments.isEmpty ||
        after.arguments.length = o.arguments.length then after
    else repeated format fuel after

/-- The output of a format with some arguments. -/
def formatted (format : Bytes) (arguments : List Bytes) : Output :=
  repeated format (arguments.length + 1) ⟨[], [], arguments, false, none⟩

end ConfigTemplate.Shell.Format
