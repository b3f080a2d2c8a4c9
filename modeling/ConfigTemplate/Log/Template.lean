import ConfigTemplate.Log.Basic
import ConfigTemplate.Text.Digit
import ConfigTemplate.Text.Quoted
import ConfigTemplate.Text.Word

/-!
# Templates of log lines

A template is a text with fields for the parts of a record: a percent sign, the name of the field
in parentheses, how it is filled, and a letter for how it is shown. A percent sign as that letter
stands for itself. A template has to have a field, but its fields are read only when a line is
written; a line whose fields cannot be read is left out.
-/

namespace ConfigTemplate.Log

/-- A record with the place in the program that gave it and the moment, in seconds since the
beginning of 1970. -/
structure Occurrence where
  record : Record
  path : String
  line : Int
  moment : Int
  deriving Repr

/-- What a field of a template shows. -/
inductive Part where
  | text (s : String)
  | number (n : Int)
  deriving DecidableEq, Repr

/-- The last name of a path. -/
def lastName (path : String) : String :=
  String.ofList (path.toList.reverse.takeWhile (· != '/')).reverse

/-- A name without what follows its last dot, unless only dots lie before that. -/
def stem (name : String) : String :=
  let reversed := name.toList.reverse
  match reversed.dropWhile (· != '.') with
  | '.' :: rest => if rest.all (· = '.') then name else String.ofList rest.reverse
  | _ => name

/-- The parts of an occurrence by the names of their fields. -/
def Occurrence.parts (o : Occurrence) : List (String × Part) :=
  [("levelname", .text o.record.level.name), ("name", .text o.record.logger),
    ("message", .text o.record.message), ("msg", .text o.record.message),
    ("levelno", .number o.record.level), ("lineno", .number o.line), ("pathname", .text o.path),
    ("filename", .text (lastName o.path)), ("module", .text (stem (lastName o.path)))]

/-- How a field is filled: with which signs, to which width, and to which precision. -/
structure Filling where
  signs : List Char
  width : Nat
  limit : Option Nat
  deriving Repr

/-- A text with blanks at its right end if it is aligned to the left, else at its left end. -/
def Filling.pad (filling : Filling) (cs : List Char) : List Char :=
  let blanks := List.replicate (filling.width - cs.length) ' '
  if filling.signs.contains '-' then cs ++ blanks else blanks ++ cs

/-- A text cut to the precision and filled to the width. -/
def Filling.apply (filling : Filling) (text : String) : String :=
  let cs := text.toList
  String.ofList (filling.pad (match filling.limit with
    | some limit => cs.take limit
    | none => cs))

/-- A number with its sign and at least as many digits as the precision says, filled to the
width. -/
def Filling.applyNumber (filling : Filling) (n : Int) : String :=
  let digits := Nat.toDigits 10 n.natAbs
  let digits := List.replicate (filling.limit.getD 0 - digits.length) '0' ++ digits
  let sign : List Char :=
    if n < 0 then ['-']
    else if filling.signs.contains '+' then ['+']
    else if filling.signs.contains ' ' then [' ']
    else []
  if filling.signs.contains '0' && !filling.signs.contains '-' then
    let zeros := filling.width - sign.length - digits.length
    String.ofList (sign ++ List.replicate zeros '0' ++ digits)
  else String.ofList (filling.pad (sign ++ digits))

/-- A text between quotes in ASCII only. -/
def asciiQuoted (s : String) : String :=
  let escape (c : Char) : List Char :=
    if c.toNat < 0x80 then [c]
    else if c.toNat < 0x100 then '\\' :: 'x' :: Text.hexDigits 2 c.toNat
    else if c.toNat < 0x10000 then '\\' :: 'u' :: Text.hexDigits 4 c.toNat
    else '\\' :: 'U' :: Text.hexDigits 8 c.toNat
  String.ofList ((Text.quoted s).toList.flatMap escape)

/-- A part shown by a letter; none if the letter does not fit the part. -/
def Part.shown? (filling : Filling) (letter : Char) : Part → Option String
  | text s =>
    if letter = 's' then some (filling.apply s)
    else if letter = 'r' then some (filling.apply (Text.quoted s))
    else if letter = 'a' then some (filling.apply (asciiQuoted s))
    else if letter = 'c' && s.length = 1 then
      some (String.ofList (filling.pad s.toList))
    else none
  | number n =>
    if letter = 'd' || letter = 'i' || letter = 'u' then some (filling.applyNumber n)
    else if letter = 's' || letter = 'r' || letter = 'a' then some (filling.apply (toString n))
    else none

/-- A piece of a template. -/
inductive Piece where
  | char (c : Char)
  | field (name : String) (filling : Filling) (letter : Char)
  /-- A field that cannot be read. -/
  | broken
  deriving Repr

/-- A template by its pieces. -/
abbrev Template := List Piece

namespace Template

/-- The number that decimal digits write; zero for none. -/
def number (digits : List Char) : Nat := digits.foldl (fun n c => 10 * n + (c.toNat - 48)) 0

/-- The signs before a width. -/
def isSign (c : Char) : Bool := ['#', '0', '-', ' ', '+'].contains c

/-- How a field is filled, from its signs, and what follows them. -/
def fillingOf (cs : List Char) : Filling × List Char :=
  let signs := cs.takeWhile isSign
  let rest := cs.dropWhile isSign
  let width := number (rest.takeWhile Char.isDigit)
  match rest.dropWhile Char.isDigit with
  | '.' :: more =>
    (⟨signs, width, some (number (more.takeWhile Char.isDigit))⟩, more.dropWhile Char.isDigit)
  | rest => (⟨signs, width, none⟩, rest)

/-- The name of a field inside parentheses, which may hold others, and what follows it. -/
def nameOf : Nat → List Char → Option (List Char × List Char)
  | _, [] => none
  | depth, c :: rest =>
    if c = ')' && depth = 0 then some ([], rest)
    else
      let deeper := if c = '(' then depth + 1 else if c = ')' then depth - 1 else depth
      (nameOf deeper rest).map fun (name, rest) => (c :: name, rest)

/-- What follows a letter for the size of a number, which says nothing. -/
def withoutSize : List Char → List Char
  | c :: rest => if c = 'h' || c = 'l' || c = 'L' then rest else c :: rest
  | [] => []

/-- A field after its percent sign, and what follows it. -/
def field (cs : List Char) : Piece × List Char :=
  let name : Option (Option String × List Char) :=
    match cs with
    | '(' :: rest => (nameOf 0 rest).map fun (name, rest) => (some (String.ofList name), rest)
    | _ => some (none, cs)
  match name with
  | none => (.broken, [])
  | some (name, rest) =>
    let (filling, rest) := fillingOf rest
    match withoutSize rest, name with
    | [], _ => (.broken, [])
    | '%' :: rest, _ => (.char '%', rest)
    | letter :: rest, some name => (.field name filling letter, rest)
    | _ :: rest, none => (.broken, rest)

/-- The pieces of a template from some characters on. -/
def piecesOf : Nat → List Char → Template
  | 0, _ | _, [] => []
  | fuel + 1, '%' :: rest =>
    let (piece, rest) := field rest
    piece :: piecesOf fuel rest
  | fuel + 1, c :: rest => .char c :: piecesOf fuel rest

/-- The template that a text writes. -/
def ofText (text : String) : Template := piecesOf (text.length + 1) text.toList

/-- What follows an asterisk or digits of any script; none for anything else. -/
def afterAmount? : List Char → Option (List Char)
  | '*' :: rest => some rest
  | cs => if cs.head?.any Text.isDigit then some (cs.dropWhile Text.isDigit) else none

/-- The letters for how a field is shown, and others that are the same in another case. -/
def isLetter (c : Char) : Bool :=
  "diouxefgcrsa%".toList.contains c.toLower || "ıİſ".toList.contains c

/-- Whether a field of any kind begins after a percent sign. -/
def startsField : List Char → Bool
  | '(' :: rest =>
    let name := rest.takeWhile Text.isWordChar
    match rest.drop name.length with
    | ')' :: more =>
      let more := more.dropWhile isSign
      let more := (afterAmount? more).getD more
      let more :=
        match more with
        | '.' :: limit => (afterAmount? limit).getD more
        | _ => more
      !name.isEmpty && more.head?.any isLetter
    | _ => false
  | _ => false

/-- Whether characters have a field of any kind. -/
def hasField : List Char → Bool
  | [] => false
  | c :: rest => (c = '%' && startsField rest) || hasField rest

/-- What a piece shows of an occurrence. -/
def shown? (o : Occurrence) : Piece → Option String
  | .char c => some (String.singleton c)
  | .broken => none
  | .field name filling letter =>
    match o.parts.find? fun entry => entry.1 = name with
    | some (_, part) => part.shown? filling letter
    | none => none

/-- The line of an occurrence; none if a field cannot be read. -/
def line? (template : Template) (o : Occurrence) : Option String :=
  (template.mapM (shown? o)).map String.join

end Template

end ConfigTemplate.Log
