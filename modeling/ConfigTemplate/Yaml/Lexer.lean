import ConfigTemplate.Json.Reader
import ConfigTemplate.Text.Encoding
import ConfigTemplate.Yaml.Cursor

/-!
# Lexical elements of settings files

The tokens of YAML. Beside the marks that stand in the text there are marks for the beginning and
the end of collections that only their indentation shows.

The lexers of single elements: names, tags, directives and the five styles of scalars. Each starts
at the first character of its element.
-/

namespace ConfigTemplate.Yaml

/-- A directive before a document. -/
inductive Directive where
  | version (major : Nat)
  | tag (handle leading : String)
  | other
  deriving DecidableEq, Repr

/-- A lexical element. -/
inductive Token where
  | directive (d : Directive)
  | documentStart
  | documentEnd
  | blockSequenceStart
  | blockMappingStart
  | blockEnd
  | flowSequenceStart
  | flowSequenceEnd
  | flowMappingStart
  | flowMappingEnd
  | flowEntry
  | blockEntry
  | key
  | value
  | alias (name : String)
  | anchor (name : String)
  /-- A tag with the handle before its name, if there is one. -/
  | tag (handle : Option String) (name : String)
  | scalar (text : String) (plain : Bool)
  deriving DecidableEq, Repr

namespace Lexer

/-- Letters and digits of ASCII, hyphens and underscores. -/
def isNameChar (c : Char) : Bool :=
  'a' ≤ c && c ≤ 'z' || 'A' ≤ c && c ≤ 'Z' || '0' ≤ c && c ≤ '9' || c = '-' || c = '_'

/-- The name after the mark of an alias or an anchor. -/
def name : Lexer String := do
  skip 1
  let chars ← takeWhile isNameChar
  need !chars.isEmpty
  match ← peek with
  | none => pure ()
  | some c => need (endsWord (some c) || "?:,]\x7d%@\x60".toList.contains c)
  return String.ofList chars

/-- The characters of a tag's name. -/
def isUriChar (c : Char) : Bool :=
  isNameChar c || ";/?:@&=+$,.!~*'()[]%".toList.contains c

/-- The bytes that percent signs give. -/
def uriBytes : Nat → Lexer (List UInt8)
  | 0 => giveUp
  | fuel + 1 => do
    if (← peek) = some '%' then
      let high ← given ((← peekAt 1).bind Json.Reader.hexValue?)
      let low ← given ((← peekAt 2).bind Json.Reader.hexValue?)
      skip 3
      return UInt8.ofNat (high * 16 + low) :: (← uriBytes fuel)
    else return []

/-- A piece of a tag's name: characters as they are, or the characters of some bytes. -/
def uriPiece : Lexer (List Char) := do
  if (← peek) = some '%' then
    let bytes ← uriBytes (← get).rest.length
    given (Text.Encoding.decodeFrom .utf8 0 bytes).toOption
  else takeWhile fun c => isUriChar c && c != '%'

/-- The name of a tag. -/
def uri : Nat → Lexer (List Char)
  | 0 => giveUp
  | fuel + 1 => do
    match ← uriPiece with
    | [] => return []
    | piece => return piece ++ (← uri fuel)

/-- The name of a tag; it is not empty. -/
def tagName : Lexer String := do
  let chars ← uri ((← get).rest.length + 1)
  need !chars.isEmpty
  return String.ofList chars

/-- The handle before a tag's name. -/
def tagHandle : Lexer String := do
  need ((← peek) = some '!')
  skip 1
  if (← peek) = some ' ' then return "!"
  let inner ← takeWhile isNameChar
  need ((← peek) = some '!')
  skip 1
  return "!" ++ String.ofList inner ++ "!"

/-- A tag. -/
def tag : Lexer Token := do
  let token ←
    match ← peekAt 1 with
    | some '<' => do
      skip 2
      let suffix ← tagName
      need ((← peek) = some '>')
      skip 1
      pure (Token.tag none suffix)
    | c => do
      if endsWord c then
        skip 1
        pure (Token.tag none "!")
      else
        let word := ((← get).rest.drop 1).takeWhile fun c => c != ' ' && !isBreak c
        let handle ← if word.contains '!' then tagHandle else do skip 1; pure "!"
        let suffix ← tagName
        pure (Token.tag (some handle) suffix)
  let c ← peek
  need (c = some ' ' || endsLine c)
  return token

/-- A number of a directive. -/
def number : Lexer Nat := do
  let digits ← takeWhile Json.Reader.isAsciiDigit
  need !digits.isEmpty
  return Json.Reader.digitsValue digits

/-- What a directive of a name says. -/
def directiveBody (name : String) : Lexer Directive := do
  if name = "YAML" then
    let _ ← takeWhile (· = ' ')
    let major ← number
    need ((← peek) = some '.')
    skip 1
    let _ ← number
    return .version major
  else if name = "TAG" then
    let _ ← takeWhile (· = ' ')
    let handle ← tagHandle
    need ((← peek) = some ' ')
    let _ ← takeWhile (· = ' ')
    let leading ← tagName
    return .tag handle leading
  else
    let _ ← takeWhile (!isBreak ·)
    return .other

/-- A directive. -/
def directive : Lexer Token := do
  skip 1
  let name ← takeWhile isNameChar
  need !name.isEmpty
  let c ← peek
  need (c = some ' ' || endsLine c)
  let body ← directiveBody (String.ofList name)
  let c ← peek
  need (c = some ' ' || endsLine c)
  restOfLine
  return .directive body

/-- What one-letter escapes stand for. -/
def escapes : List (Char × Char) :=
  [('0', '\x00'), ('a', '\x07'), ('b', '\x08'), ('t', '\t'), ('\t', '\t'), ('n', '\n'),
    ('v', '\x0b'), ('f', '\x0c'), ('r', '\r'), ('e', '\x1b'), (' ', ' '), ('"', '"'),
    ('\\', '\\'), ('/', '/'), ('N', '\x85'), ('_', '\xa0'), ('L', '\u2028'), ('P', '\u2029')]

/-- The number of hexadecimal digits after a letter. -/
def escapeWidth : Char → Option Nat
  | 'x' => some 2
  | 'u' => some 4
  | 'U' => some 8
  | _ => none

/-- An escape, from after its backslash. -/
def escape (c : Char) : Lexer (List Char) := do
  match escapes.find? (·.1 = c), escapeWidth c with
  | some (_, value), _ =>
    skip 1
    return [value]
  | none, some width =>
    skip 1
    let digits := (← get).rest.take width
    need (digits.length = width)
    let values ← given (digits.mapM Json.Reader.hexValue?)
    let code := values.foldl (fun n d => n * 16 + d) 0
    if 0x10FFFF < code then stop (.scalar (.codePoint code))
    skip width
    return [Text.Encoding.charOfPoint code]
  | none, none =>
    need (isBreak c)
    let _ ← takeBreak
    quotedBreaks ((← get).rest.length + 1)

/-- The white space inside a quoted scalar. A single line break counts as a space. -/
def quotedSpace : Lexer (List Char) := do
  let blanks ← takeWhile isSpaceOrTab
  match ← peek with
  | none => giveUp
  | some c =>
    if isBreak c then
      let first ← takeBreak
      let more ← quotedBreaks ((← get).rest.length + 1)
      if first ≠ ['\n'] then return first ++ more
      else if more.isEmpty then return [' ']
      else return more
    else return blanks

/-- The characters of a quoted scalar up to its closing quote. -/
def quotedBody (double : Bool) : Nat → Lexer (List Char)
  | 0 => giveUp
  | fuel + 1 => do
    let quote := if double then '"' else '\''
    match ← peek with
    | none => giveUp
    | some c =>
      if c = quote then
        if !double && (← peekAt 1) = some '\'' then
          skip 2
          return '\'' :: (← quotedBody double fuel)
        else
          skip 1
          return []
      else if double && c = '\\' then
        skip 1
        let escaped ← escape (← given (← peek))
        return escaped ++ (← quotedBody double fuel)
      else if isSpaceOrTab c || isBreak c then
        let space ← quotedSpace
        return space ++ (← quotedBody double fuel)
      else
        skip 1
        return c :: (← quotedBody double fuel)

/-- A scalar between quotes. -/
def quoted (double : Bool) : Lexer Token := do
  skip 1
  let chars ← quotedBody double ((← get).rest.length + 1)
  return .scalar (String.ofList chars) false

/-- How a block scalar ends: without its line breaks, with the first, or with all. -/
inductive Chomping where
  | strip
  | clip
  | keep
  deriving DecidableEq

/-- A sign of how a block scalar ends. -/
def chomping : Lexer (Option Chomping) := do
  match ← peek with
  | some '+' => skip 1; return some .keep
  | some '-' => skip 1; return some .strip
  | _ => return none

/-- A digit that tells the indentation of a block scalar; zero is refused. -/
def increment : Lexer (Option Nat) := do
  match ← peek with
  | some c =>
    if Json.Reader.isAsciiDigit c then
      need (c != '0')
      skip 1
      return some (c.toNat - '0'.toNat)
    else return none
  | none => return none

/-- The signs after the mark of a block scalar, in either order. -/
def blockHeader : Lexer (Chomping × Option Nat) := do
  match ← chomping with
  | some c => return (c, ← increment)
  | none =>
    let width ← increment
    if width.isSome then return ((← chomping).getD .clip, width)
    else return (.clip, none)

/-- The line breaks before the first line of a block scalar, and the deepest column reached among
them. -/
def blockLead : Nat → Lexer (List Char × Nat)
  | 0 => giveUp
  | fuel + 1 => do
    match ← peek with
    | some ' ' =>
      skip 1
      let column := (← get).column
      let (breaks, deepest) ← blockLead fuel
      return (breaks, max column deepest)
    | some c =>
      if isBreak c then
        let taken ← takeBreak
        let (breaks, deepest) ← blockLead fuel
        return (taken ++ breaks, deepest)
      else return ([], 0)
    | none => return ([], 0)

/-- Go past spaces up to a column. -/
def indentTo (column : Nat) : Nat → Lexer Unit
  | 0 => pure ()
  | fuel + 1 => do
    if (← get).column < column && (← peek) = some ' ' then
      skip 1
      indentTo column fuel

/-- The line breaks between the lines of a block scalar. -/
def blockBreaks (column : Nat) : Nat → Lexer (List Char)
  | 0 => giveUp
  | fuel + 1 => do
    indentTo column column
    match ← takeBreak with
    | [] => return []
    | taken => return taken ++ (← blockBreaks column fuel)

/-- What lies between two lines of a folded or literal scalar. -/
def foldedBreak (folded : Bool) (leadsWithSpace : Bool) (first : List Char) (next : Option Char)
    (breaks : List Char) : List Char :=
  if folded && first = ['\n'] && !leadsWithSpace && !next.any isSpaceOrTab then
    if breaks.isEmpty then [' '] else []
  else first

/-- The lines of a block scalar from one of them on: its text, its last line break and the line
breaks after that. `breaks` are the line breaks before it. -/
def blockLines (folded : Bool) (column : Nat) :
    Nat → List Char → Lexer (List Char × List Char × List Char)
  | 0, _ => giveUp
  | fuel + 1, breaks => do
    let first ← peek
    if (← get).column = column && first.isSome then
      let line ← takeWhile (!isBreak ·)
      let last ← takeBreak
      let more ← blockBreaks column ((← get).rest.length + 1)
      let next ← peek
      if (← get).column = column && next.isSome then
        let between := foldedBreak folded (first.any isSpaceOrTab) last next more
        let (text, last, tail) ← blockLines folded column fuel more
        return (breaks ++ line ++ between ++ text, last, tail)
      else return (breaks ++ line, last, more)
    else return ([], [], breaks)

/-- A scalar of lines that are indented. `indent` is the column of the collection around it, -1
for none. -/
def block (folded : Bool) (indent : Int) : Lexer Token := do
  skip 1
  let (chomp, width) ← blockHeader
  let c ← peek
  need (c = some ' ' || endsLine c)
  restOfLine
  let least := max 1 (indent + 1).toNat
  let fuel := (← get).rest.length + 1
  let (breaks, column) ←
    match width with
    | some width => do
      let column := least + width - 1
      pure (← blockBreaks column fuel, column)
    | none => do
      let (breaks, deepest) ← blockLead fuel
      pure (breaks, max least deepest)
  let (text, last, tail) ← blockLines folded column fuel breaks
  let ending :=
    match chomp with
    | .strip => []
    | .clip => last
    | .keep => last ++ tail
  return .scalar (String.ofList (text ++ ending)) false

/-- Characters that delimit flow collections. -/
def isFlowMark (c : Char) : Bool := [',', '[', ']', '\x7b', '\x7d'].contains c

/-- Whether a plain scalar ends before some characters. -/
def endsPlain (inFlow : Bool) (c : Char) (next : Option Char) : Bool :=
  endsWord (some c) ||
    (c = ':' && (endsWord next || (inFlow && next.any isFlowMark))) ||
    (inFlow && (isFlowMark c || c = '?'))

/-- The characters of a plain scalar up to white space or its end. -/
def plainWord (inFlow : Bool) : List Char → List Char
  | [] => []
  | c :: rest => if endsPlain inFlow c rest.head? then [] else c :: plainWord inFlow rest

/-- The line breaks and spaces between the lines of a plain scalar; none before a document mark. -/
def plainBreaks : Nat → Lexer (Option (List Char))
  | 0 => giveUp
  | fuel + 1 => do
    let _ ← takeWhile (· = ' ')
    match ← takeBreak with
    | [] => return some []
    | taken =>
      if ← atDocumentMark then return none
      else return (← plainBreaks fuel).map (taken ++ ·)

/-- The white space inside a plain scalar, and whether it spans lines. Before a document mark it
counts as none. -/
def plainSpace : Lexer (List Char × Bool) := do
  let blanks ← takeWhile (· = ' ')
  if (← peek).any isBreak then
    let first ← takeBreak
    if ← atDocumentMark then return ([], true)
    match ← plainBreaks ((← get).rest.length + 1) with
    | none => return ([], true)
    | some more =>
      if first ≠ ['\n'] then return (first ++ more, true)
      else if more.isEmpty then return ([' '], true)
      else return (more, true)
  else return (blanks, false)

/-- The characters of a plain scalar, and whether it ends in a new line. `space` is what lies
before them. -/
def plainBody (inFlow : Bool) (indent : Int) : Nat → List Char → Bool → Lexer (List Char × Bool)
  | 0, _, _ => giveUp
  | fuel + 1, space, newLine => do
    if (← peek) = some '#' then return ([], newLine)
    let word := plainWord inFlow (← get).rest
    if word.isEmpty then return ([], newLine)
    skip word.length
    let (after, spans) ← plainSpace
    if after.isEmpty || (← peek) = some '#' || (!inFlow && ((← get).column : Int) < indent + 1) then
      return (space ++ word, spans)
    let (text, newLine) ← plainBody inFlow indent fuel after spans
    return (space ++ word ++ text, newLine)

/-- A scalar without quotes, and whether it ends in a new line. -/
def plain (inFlow : Bool) (indent : Int) : Lexer (Token × Bool) := do
  let (chars, newLine) ← plainBody inFlow indent ((← get).rest.length + 1) [] false
  return (.scalar (String.ofList chars) true, newLine)

end Lexer

end ConfigTemplate.Yaml
