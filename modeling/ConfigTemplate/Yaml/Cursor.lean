import ConfigTemplate.Yaml.Fault

/-!
# Cursors in settings files

A place in the text of a settings file: the characters that follow, and how many lines and columns
lie before them. A lexer goes on from a cursor or gives up. The line breaks of the text have been
unified; beside the line feed there are three more characters that break a line.
-/

namespace ConfigTemplate.Yaml

/-- A place in a text. -/
structure Cursor where
  rest : List Char
  index : Nat
  line : Nat
  column : Nat
  deriving Repr

/-- A piece of lexical analysis. -/
abbrev Lexer := StateT Cursor (Except Fault)

/-- Characters that break a line. -/
def isBreak (c : Char) : Bool := c = '\n' || c = '\x85' || c = '\u2028' || c = '\u2029'

/-- Spaces and tabs. -/
def isSpaceOrTab (c : Char) : Bool := c = ' ' || c = '\t'

/-- The end of the text or of a line. -/
def endsLine : Option Char → Bool
  | none => true
  | some c => isBreak c

/-- The end of the text or a character between words. -/
def endsWord : Option Char → Bool
  | none => true
  | some c => isBreak c || isSpaceOrTab c

/-- Characters that a text may hold. -/
def isAllowed (c : Char) : Bool :=
  let n := c.toNat
  n = 0x9 || n = 0xA || n = 0xD || 0x20 ≤ n && n ≤ 0x7E || n = 0x85 || 0xA0 ≤ n && n ≤ 0xD7FF ||
    0xE000 ≤ n && n ≤ 0xFFFD || 0x10000 ≤ n && n ≤ 0x10FFFF

namespace Cursor

/-- The beginning of a text. -/
def start (text : List Char) : Cursor := ⟨text, 0, 0, 0⟩

/-- The cursor after the next character. A byte order mark takes no column. -/
def next (c : Cursor) : Cursor :=
  match c.rest with
  | [] => c
  | ch :: rest =>
    if isBreak ch then ⟨rest, c.index + 1, c.line + 1, 0⟩
    else if ch = '\uFEFF' then ⟨rest, c.index + 1, c.line, c.column⟩
    else ⟨rest, c.index + 1, c.line, c.column + 1⟩

/-- The cursor after some characters. -/
def skip (c : Cursor) : Nat → Cursor
  | 0 => c
  | n + 1 => c.next.skip n

end Cursor

namespace Lexer

/-- Stop for a reason. -/
def stop {α : Type} (fault : Fault) : Lexer α := fun _ => .error fault

/-- Give up. -/
def giveUp {α : Type} : Lexer α := stop .malformed

/-- Give up unless there is a value. -/
def given {α : Type} : Option α → Lexer α
  | some a => pure a
  | none => giveUp

/-- Give up unless a condition holds. -/
def need (condition : Bool) : Lexer Unit := if condition then pure () else giveUp

/-- The character at a distance. -/
def peekAt (n : Nat) : Lexer (Option Char) := do return (← get).rest[n]?

/-- The next character. -/
def peek : Lexer (Option Char) := peekAt 0

/-- Go past some characters. -/
def skip (n : Nat) : Lexer Unit := modify (·.skip n)

/-- Take the characters that satisfy a test. -/
def takeWhile (test : Char → Bool) : Lexer (List Char) := do
  let taken := (← get).rest.takeWhile test
  skip taken.length
  return taken

/-- Take a line break. What it stands for is given: a line feed, or one of the two Unicode
separators; nothing where there is no break. -/
def takeBreak : Lexer (List Char) := do
  match ← peek with
  | some c =>
    if isBreak c then
      skip 1
      return [if c = '\x85' then '\n' else c]
    else return []
  | none => return []

/-- Whether a mark of three equal characters stands here by itself. -/
def atMark (c : Char) : Lexer Bool := do
  let rest := (← get).rest
  return rest.take 3 = [c, c, c] && endsWord rest[3]?

/-- Whether a document begins or ends here. -/
def atDocumentMark : Lexer Bool := do return (← atMark '-') || (← atMark '.')

/-- Drop spaces and a comment up to the end of the line, which has to follow. -/
def restOfLine : Lexer Unit := do
  let _ ← takeWhile (· = ' ')
  if (← peek) = some '#' then
    let _ ← takeWhile (!isBreak ·)
  need (endsLine (← peek))
  let _ ← takeBreak

/-- The line breaks and the spaces or tabs before them, up to a character that is neither. A
document mark at the beginning of a line is refused. -/
def quotedBreaks : Nat → Lexer (List Char)
  | 0 => giveUp
  | fuel + 1 => do
    need (!(← atDocumentMark))
    let _ ← takeWhile isSpaceOrTab
    match ← takeBreak with
    | [] => return []
    | taken => return taken ++ (← quotedBreaks fuel)

end Lexer

end ConfigTemplate.Yaml
