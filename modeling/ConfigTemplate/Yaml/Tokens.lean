import ConfigTemplate.Yaml.Lexer

/-!
# The tokens of a text

The lexical elements of a text in order, with the marks of the collections that indentation shows.
A collection outside brackets begins where something is indented more deeply than before and ends
where the indentation falls back. What may be the key of a mapping is remembered until its colon
follows on the same line; the mark of the key is then put in before it.
-/

namespace ConfigTemplate.Yaml

/-- Something that is a key if a colon follows. -/
structure Candidate where
  /-- The number of tokens before it. -/
  place : Nat
  /-- Whether nothing but a key can stand there. -/
  required : Bool
  index : Nat
  line : Nat
  column : Nat
  deriving Repr

/-- The layout of the text before a place. -/
structure Layout where
  cursor : Cursor
  /-- The tokens so far, the latest first. -/
  emitted : List Token
  /-- The number of brackets around the place. -/
  depth : Nat
  /-- The column of the innermost collection outside brackets, -1 for none. -/
  indent : Int
  /-- The columns of the collections around it. -/
  outer : List Int
  /-- Whether a key may begin here. -/
  keyAllowed : Bool
  /-- The candidates by the number of brackets around them. -/
  candidates : List (Nat × Candidate)

/-- A step of tokenization. The layout remains where it stops. -/
abbrev Tokenizer := ExceptT Fault (StateM Layout)

namespace Layout

/-- The layout at the beginning of a text. -/
def start (text : List Char) : Layout := ⟨.start text, [], 0, -1, [], true, []⟩

/-- Whether brackets surround the place. -/
def inFlow (l : Layout) : Bool := l.depth != 0

/-- The column of the place. -/
def column (l : Layout) : Nat := l.cursor.column

/-- A layout with a token put in before some of the tokens. -/
def inserted (l : Layout) (place : Nat) (token : Token) : Layout :=
  let later := l.emitted.length - place
  { l with emitted := l.emitted.take later ++ token :: l.emitted.drop later }

/-- Whether a candidate can no longer be a key: its line is over, or it is too long. -/
def isStale (l : Layout) (c : Candidate) : Bool :=
  c.line != l.cursor.line || c.index + 1024 < l.cursor.index

/-- Close the collections that are indented more deeply than a column. -/
def unwound (l : Layout) (column : Int) : List Int → Layout
  | [] => l
  | outer :: rest =>
    if column < l.indent then
      unwound { l with emitted := .blockEnd :: l.emitted, indent := outer, outer := rest } column
        rest
    else l

end Layout

namespace Tokenizer

/-- Give up. -/
def giveUp {α : Type} : Tokenizer α := throw .malformed

/-- Give up unless a condition holds. -/
def need (condition : Bool) : Tokenizer Unit := if condition then pure () else giveUp

/-- Take a lexical element. -/
def lex {α : Type} (lexer : Lexer α) : Tokenizer α := do
  match lexer (← get).cursor with
  | .error fault => throw fault
  | .ok (a, cursor) =>
    modify fun l => { l with cursor }
    return a

/-- Add a token. -/
def emit (token : Token) : Tokenizer Unit :=
  modify fun l => { l with emitted := token :: l.emitted }

/-- Say whether a key may begin next. -/
def allowKey (allowed : Bool) : Tokenizer Unit := modify fun l => { l with keyAllowed := allowed }

/-- Go past spaces, comments and line breaks. After a line break outside brackets a key may
begin. -/
def skipBlank : Nat → Tokenizer Unit
  | 0 => giveUp
  | fuel + 1 => do
    let _ ← lex (Lexer.takeWhile (· = ' '))
    if (← lex Lexer.peek) = some '#' then
      let _ ← lex (Lexer.takeWhile (!isBreak ·))
    if (← lex Lexer.takeBreak).isEmpty then return
    if !(← get).inFlow then allowKey true
    skipBlank fuel

/-- Forget the candidates that can no longer be keys; none of them may have to be one. -/
def dropStale : Tokenizer Unit := do
  let l ← get
  need (l.candidates.all fun (_, c) => !(c.required && l.isStale c))
  set { l with candidates := l.candidates.filter fun (_, c) => !l.isStale c }

/-- Forget the candidate inside the present brackets; it may not have to be a key. -/
def dropCandidate : Tokenizer Unit := do
  let l ← get
  need (!(Entries.get? l.depth l.candidates).any (·.required))
  set { l with candidates := l.candidates.filter (·.1 != l.depth) }

/-- Remember what follows as a candidate where a key may begin. -/
def addCandidate : Tokenizer Unit := do
  let l ← get
  if l.keyAllowed then
    dropCandidate
    let candidate : Candidate :=
      { place := l.emitted.length
        required := !l.inFlow && l.indent = (l.column : Int)
        index := l.cursor.index
        line := l.cursor.line
        column := l.column }
    modify fun l => { l with candidates := Entries.put l.depth candidate l.candidates }

/-- Close the collections outside brackets that are indented more deeply than a column. -/
def unwind (column : Int) : Tokenizer Unit :=
  modify fun l => if l.inFlow then l else l.unwound column l.outer

/-- Begin a collection at a column if it is indented more deeply than the present one. -/
def indentTo (column : Nat) : Tokenizer Bool := do
  let l ← get
  if l.indent < (column : Int) then
    set { l with indent := column, outer := l.indent :: l.outer }
    return true
  else return false

/-- Begin a collection outside brackets, where a key has to be allowed. -/
def beginBlock (first : Token) : Tokenizer Unit := do
  let l ← get
  if !l.inFlow then
    need l.keyAllowed
    if ← indentTo l.column then emit first

/-- The end of a document, as far as collections and keys go. -/
def endDocument : Tokenizer Unit := do
  unwind (-1)
  dropCandidate
  allowKey false

/-- A single character as a token. -/
def mark (token : Token) : Tokenizer Unit := do
  lex (Lexer.skip 1)
  emit token

/-- The mark of three characters at the beginning or the end of a document. -/
def documentMark (token : Token) : Tokenizer Unit := do
  endDocument
  lex (Lexer.skip 3)
  emit token

/-- An opening bracket. -/
def openFlow (token : Token) : Tokenizer Unit := do
  addCandidate
  modify fun l => { l with depth := l.depth + 1 }
  allowKey true
  mark token

/-- A closing bracket; one that closes nothing is refused. -/
def closeFlow (token : Token) : Tokenizer Unit := do
  dropCandidate
  need (← get).inFlow
  modify fun l => { l with depth := l.depth - 1 }
  allowKey false
  mark token

/-- A comma between brackets. -/
def flowEntry : Tokenizer Unit := do
  allowKey true
  dropCandidate
  mark .flowEntry

/-- The hyphen before an item of a sequence. -/
def blockEntry : Tokenizer Unit := do
  beginBlock .blockSequenceStart
  allowKey true
  dropCandidate
  mark .blockEntry

/-- The question mark before a key. -/
def explicitKey : Tokenizer Unit := do
  beginBlock .blockMappingStart
  allowKey !(← get).inFlow
  dropCandidate
  mark .key

/-- The colon before a value. A candidate inside the same brackets is its key. -/
def value : Tokenizer Unit := do
  let l ← get
  match Entries.get? l.depth l.candidates with
  | some key =>
    set { l.inserted key.place .key with candidates := l.candidates.filter (·.1 != l.depth) }
    if !l.inFlow then
      if ← indentTo key.column then modify (·.inserted key.place .blockMappingStart)
    allowKey false
  | none =>
    beginBlock .blockMappingStart
    allowKey !l.inFlow
    dropCandidate
  mark .value

/-- An element that may be a key or a part of one. -/
def element (lexer : Lexer Token) : Tokenizer Unit := do
  addCandidate
  allowKey false
  emit (← lex lexer)

/-- A scalar without quotes. A key may begin after one that ends in a new line. -/
def plain : Tokenizer Unit := do
  addCandidate
  let l ← get
  let (token, newLine) ← lex (Lexer.plain l.inFlow l.indent)
  allowKey newLine
  emit token

/-- A scalar of indented lines. -/
def block (folded : Bool) : Tokenizer Unit := do
  allowKey true
  dropCandidate
  emit (← lex (Lexer.block folded (← get).indent))

/-- Characters that begin no scalar without quotes. -/
def isIndicator (c : Char) : Bool := "-?:,[]\x7b\x7d#&*!|>'\"%@\x60".toList.contains c

/-- Whether a scalar without quotes begins with a character before another one. -/
def startsPlain (inFlow : Bool) (c : Char) (next : Option Char) : Bool :=
  !(endsWord (some c) || isIndicator c) ||
    (!endsWord next && (c = '-' || (!inFlow && (c = '?' || c = ':'))))

/-- The element that begins with a character. -/
def dispatch (c : Char) : Tokenizer Unit := do
  let l ← get
  let next := l.cursor.rest[1]?
  let atStart := l.column = 0
  if atStart && c = '%' then
    endDocument
    emit (← lex Lexer.directive)
  else if atStart && (← lex (Lexer.atMark '-')) then documentMark .documentStart
  else if atStart && (← lex (Lexer.atMark '.')) then documentMark .documentEnd
  else if c = '[' then openFlow .flowSequenceStart
  else if c = '\x7b' then openFlow .flowMappingStart
  else if c = ']' then closeFlow .flowSequenceEnd
  else if c = '\x7d' then closeFlow .flowMappingEnd
  else if c = ',' then flowEntry
  else if c = '-' && endsWord next then blockEntry
  else if c = '?' && (l.inFlow || endsWord next) then explicitKey
  else if c = ':' && (l.inFlow || endsWord next) then value
  else if c = '*' then element (do return .alias (← Lexer.name))
  else if c = '&' then element (do return .anchor (← Lexer.name))
  else if c = '!' then element Lexer.tag
  else if c = '|' && !l.inFlow then block false
  else if c = '>' && !l.inFlow then block true
  else if c = '\'' then element (Lexer.quoted false)
  else if c = '"' then element (Lexer.quoted true)
  else
    need (startsPlain l.inFlow c next)
    plain

/-- The elements from a place on. -/
def elements : Nat → Tokenizer Unit
  | 0 => giveUp
  | fuel + 1 => do
    skipBlank ((← get).cursor.rest.length + 1)
    dropStale
    unwind (← get).column
    match ← lex Lexer.peek with
    | none => endDocument
    | some c =>
      dispatch c
      elements fuel

/-- Go past a byte order mark. -/
def skipMark : Tokenizer Unit := do
  if (← lex Lexer.peek) = some '\uFEFF' then lex (Lexer.skip 1)

end Tokenizer

/-- The tokens of a text as far as it can be read, and why it cannot be read on if it ends
before. -/
def Token.ofText (text : List Char) : List Token × Option Fault :=
  if text.all isAllowed then
    let tokenize : Tokenizer Unit := do
      Tokenizer.skipMark
      Tokenizer.elements (text.length + 1)
    let (result, l) := tokenize.run.run (Layout.start text)
    (l.emitted.reverse, match result with
      | .error fault => some fault
      | .ok () => none)
  else ([], some .malformed)

end ConfigTemplate.Yaml
