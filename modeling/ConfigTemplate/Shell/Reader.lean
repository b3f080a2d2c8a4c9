import ConfigTemplate.Entries
import ConfigTemplate.Shell.Script

/-!
# Reading scripts

A script is read line by line: a line with an open quote or an open command goes on on the next
one. What is wrong in a line is noticed before any of its commands is run, but after the commands
of the lines before it, which may also have given words another meaning.
-/

namespace ConfigTemplate.Shell

/-- An alias that has been put into the text: its name, the length of what follows its words, and
whether a blank ends them. -/
structure AliasUse where
  name : String
  after : Nat
  endsBlank : Bool

/-- The text still to read, the number of its first line, the words that stand for others, and those
of them that have been put in place. -/
structure Source where
  rest : List Char
  line : Nat
  aliases : List (String × String) := []
  used : List AliasUse := []
  /-- The lines that were taken out of the text after the ends of lines: how long the text is from
  there on, and how many lines are missing. -/
  missing : List (Nat × Nat) := []
  /-- How many lines come between the end of the text and what follows it, where it is one that is
  written after the line of a command. -/
  hereLines : Option Nat := none

/-- A piece of reading. -/
abbrev Reader := StateT Source (Except Complaint)

namespace Reader

/-- Stop with a complaint. -/
def complain {α : Type} (text : String) : Reader α := do throw ⟨(← get).line, text⟩

/-- The number of lines that end within so many characters, with those that are missing. -/
def linesWithin (missing : List (Nat × Nat)) : Nat → List Char → Nat
  | 0, _ | _, [] => 0
  | count + 1, c :: rest =>
    let ended := if c = '\n' then 1 + (Entries.get? rest.length missing).getD 0 else 0
    ended + linesWithin missing count rest

/-- Go past some characters, without counting lines. -/
def swallow (count : Nat) : Reader Unit := modify fun s => { s with rest := s.rest.drop count }

/-- Go past some characters. -/
def advance (count : Nat) : Reader Unit :=
  modify fun s =>
    { s with rest := s.rest.drop count, line := s.line + linesWithin s.missing count s.rest }

/-- The characters that follow. -/
def ahead : Reader (List Char) := do return (← get).rest

/-- Whether some characters follow; they are taken. -/
def accept (text : String) : Reader Bool := do
  if text.toList.isPrefixOf (← ahead) then
    advance text.length
    return true
  else return false

/-- Take the characters that satisfy a test. -/
def takeWhile (test : Char → Bool) : Reader (List Char) := do
  let taken := (← ahead).takeWhile test
  advance taken.length
  return taken

/-- Letters and underscores. -/
def startsName (c : Char) : Bool := c.isAlpha || c = '_'

/-- Letters, digits and underscores. -/
def isNameChar (c : Char) : Bool := c.isAlphanum || c = '_'

/-- The characters that end a word. -/
def endsWord (c : Char) : Bool := " \t\n;&|<>()".toList.contains c

/-- Parameters with a mark for a name. -/
def isMark (c : Char) : Bool := "?$#@*!-".toList.contains c

/-- Go past blanks, joined lines and a comment. -/
def skipBlank : Nat → Reader Unit
  | 0 => pure ()
  | fuel + 1 => do
    match ← ahead with
    | ' ' :: _ | '\t' :: _ => advance 1; skipBlank fuel
    | '\\' :: '\n' :: _ => advance 2; skipBlank fuel
    | '#' :: _ => let _ ← takeWhile (· != '\n')
    | _ => pure ()

/-- Go past blanks and ends of lines. -/
def skipLines : Nat → Reader Unit
  | 0 => pure ()
  | fuel + 1 => do
    skipBlank fuel
    if ← accept "\n" then skipLines fuel

/-- The words that mark compound commands. -/
def reservedWords : List String :=
  ["if", "then", "else", "elif", "fi", "while", "until", "do", "done", "for", "case", "esac",
    "in", "\x7b", "\x7d", "!"]

/-- A reserved word that follows. -/
def reserved? : Reader (Option String) := do
  let word := String.ofList ((← ahead).takeWhile (!endsWord ·))
  return if reservedWords.contains word then some word else none

/-- The operators, longer ones first. -/
def operators : List String := [";;", "&&", "||", ";", "&", "|", "(", ")"]

/-- What the next token is called. Reserved words are called by themselves only where they have a
meaning. -/
def tokenName (knowsWords : Bool) : Reader String := do
  let rest ← ahead
  match rest with
  | [] => return "end of file"
  | '\n' :: _ => return "newline"
  | c :: more =>
    match operators.find? fun op => op.toList.isPrefixOf rest with
    | some op => return s!"\"{op}\""
    | none =>
      let sign := if c.isDigit then more.head?.getD c else c
      if sign = '<' || sign = '>' then return "redirection"
      match ← reserved? with
      | some word => return if knowsWords then s!"\"{word}\"" else "word"
      | none => return "word"

/-- Stop at a token, past which an action goes: what is wrong within a word is noticed before the
word. The end of a line is part of the line after it. -/
def stopAtToken {α : Type} (pass : Reader Unit) (knowsWords : Bool) (about : String) :
    Reader α := do
  let token ← tokenName knowsWords
  if token = "newline" then modify fun s => { s with line := s.line + 1 } else pass
  complain s!"Syntax error: {token} unexpected{about}"

/-- Stop at a token that cannot stand here. -/
def unexpected {α : Type} (pass : Reader Unit) : Reader α := stopAtToken pass true ""

/-- Stop at a token in whose place another one has to stand. -/
def expecting {α : Type} (pass : Reader Unit) (name : String) : Reader α :=
  stopAtToken pass true s!" (expecting \"{name}\")"

/-- Take a closing parenthesis, which has to follow. -/
def expectClosing (pass : Reader Unit) (knowsWords : Bool) (fuel : Nat) : Reader Unit := do
  skipBlank fuel
  if !(← accept ")") then stopAtToken pass knowsWords " (expecting \")\")"

/-- Take a reserved word, which has to follow. -/
def expectWord (pass : Reader Unit) (word : String) (fuel : Nat) : Reader Unit := do
  skipBlank fuel
  if (← reserved?) = some word then advance word.length else expecting pass word

/-- Whether a list of commands ends here. -/
def atListEnd : Reader Bool := do
  match ← ahead with
  | [] => return true
  | ')' :: _ => return true
  | ';' :: ';' :: _ => return true
  | _ =>
    return (← reserved?).any
      ["then", "else", "elif", "fi", "do", "done", "esac", "\x7d"].contains

/-- The text between single quotes. -/
def singleQuoted : Reader Piece := do
  advance 1
  let inner ← takeWhile (· != '\'')
  if !(← accept "'") then complain "Syntax error: Unterminated quoted string"
  return .text inner true

/-- The text between backquotes, in which a backslash protects three characters, and the double
quote too where the backquotes are quoted. -/
def backquoted (quoted : Bool) : Nat → Reader (List Char)
  | 0 => complain "Syntax error: EOF in backquote substitution"
  | fuel + 1 => do
    match ← ahead with
    | [] => complain "Syntax error: EOF in backquote substitution"
    | '\x60' :: _ => advance 1; return []
    | '\\' :: c :: _ =>
      advance 2
      let kept := if "$\x60\\".toList.contains c || quoted && c = '"' then [c] else ['\\', c]
      return kept ++ (← backquoted quoted fuel)
    | c :: _ => advance 1; return c :: (← backquoted quoted fuel)

/-- The text of pieces that are plain. -/
def plainText (word : Word) : String :=
  String.ofList (word.flatMap fun piece =>
    match piece with
    | .text chars _ => chars
    | _ => [])

/-- Whether a word is plain text, nothing of it quoted. -/
def isPlain (word : Word) : Bool :=
  word.all fun piece =>
    match piece with
    | .text _ quoted => !quoted
    | _ => false

/-- Whether the sign follows that ends a case. -/
def isCaseEnd : Reader Bool := do return ";;".toList.isPrefixOf (← ahead)

/-- Where pieces of words stand. -/
inductive Context where
  | word
  | doubleQuoted
  | braced (quoted : Bool)
  | hereText
  /-- In a sum, inside so many parentheses of its own. -/
  | sum (depth : Nat)
  deriving DecidableEq

/-- Whether text in a context is as good as quoted. -/
def Context.isQuoted : Context → Bool
  | word | braced false => false
  | _ => true

/-- Stop where a context has not come to its end. -/
def Context.missingEnd : Context → Reader (List Piece)
  | word | hereText => pure []
  | doubleQuoted | braced true => do
    match (← get).hereLines with
    | some lines =>
      modify fun s => { s with line := s.line + lines }
      complain "Syntax error: Missing '\x7d'"
    | none => complain "Syntax error: Unterminated quoted string"
  | braced false => complain "Syntax error: Missing '\x7d'"
  | sum _ => do
    modify fun s => { s with line := s.line + s.hereLines.getD 0 }
    complain "Syntax error: Missing '))'"

/-- How the value of a parameter is changed, by the signs after its name. -/
def change : Reader (Change × Bool) := do
  if ← accept ":-" then return (.default, true)
  if ← accept ":=" then return (.assign, true)
  if ← accept ":?" then return (.require, true)
  if ← accept ":+" then return (.alternate, true)
  if ← accept "-" then return (.default, false)
  if ← accept "=" then return (.assign, false)
  if ← accept "?" then return (.require, false)
  if ← accept "+" then return (.alternate, false)
  if ← accept "##" then return (.withoutFront true, false)
  if ← accept "#" then return (.withoutFront false, false)
  if ← accept "%%" then return (.withoutEnd true, false)
  if ← accept "%" then return (.withoutEnd false, false)
  return (.unknown, false)

/-- The name of a parameter, if one follows. -/
def parameterName : Reader String := do
  match ← ahead with
  | c :: _ =>
    if startsName c then return String.ofList (← takeWhile isNameChar)
    else if c.isDigit then return String.ofList (← takeWhile Char.isDigit)
    else if isMark c then
      advance 1
      return String.singleton c
    else return ""
  | [] => return ""

/-- What follows the sign that closes something: a quotation, or what parentheses or braces
contain. Quotations within it do not close it. -/
def pastClosing : Nat → Char → List Char → List Char
  | 0, _, cs => cs
  | _ + 1, _, [] => []
  | fuel + 1, closing, c :: rest =>
    if c = closing then rest
    else if closing = '\'' then pastClosing fuel closing rest
    else
      let inner (own : Char) : List Char := pastClosing fuel closing (pastClosing fuel own rest)
      match c with
      | '\\' => pastClosing fuel closing (rest.drop 1)
      | '\x60' => inner '\x60'
      | '\'' => if closing = ')' then inner '\'' else pastClosing fuel closing rest
      | '"' => if closing = '\x60' then pastClosing fuel closing rest else inner '"'
      | '(' => if closing = ')' then inner ')' else pastClosing fuel closing rest
      | '$' =>
        match rest with
        | '(' :: more => pastClosing fuel closing (pastClosing fuel ')' more)
        | '\x7b' :: more => pastClosing fuel closing (pastClosing fuel '\x7d' more)
        | _ => pastClosing fuel closing rest
      | _ => pastClosing fuel closing rest

/-- A text from the end of its first line on; the ends of lines within quotations do not count.
`afterBlank` tells that a comment may begin here. -/
def fromLineEnd : Nat → Bool → List Char → List Char
  | 0, _, cs => cs
  | _ + 1, _, [] => []
  | fuel + 1, afterBlank, c :: rest =>
    let inner (own : Char) : List Char := fromLineEnd fuel false (pastClosing rest.length own rest)
    match c with
    | '\n' => c :: rest
    | '\\' => fromLineEnd fuel false (rest.drop 1)
    | '\'' | '"' | '\x60' => inner c
    | '#' =>
      if afterBlank then rest.dropWhile (· ≠ '\n') else fromLineEnd fuel false rest
    | '$' =>
      match rest with
      | '(' :: more => fromLineEnd fuel false (pastClosing more.length ')' more)
      | '\x7b' :: more => fromLineEnd fuel false (pastClosing more.length '\x7d' more)
      | _ => fromLineEnd fuel false rest
    | _ => fromLineEnd fuel (endsWord c) rest

/-- A text from the end of its first line on, where only the outputs of commands may go on over
ends of lines. -/
def fromPlainLineEnd : Nat → List Char → List Char
  | 0, cs => cs
  | _ + 1, [] => []
  | fuel + 1, c :: rest =>
    match c with
    | '\n' => c :: rest
    | '\\' => fromPlainLineEnd fuel (rest.drop 1)
    | '\x60' => fromPlainLineEnd fuel (pastClosing rest.length '\x60' rest)
    | '$' =>
      match rest with
      | '(' :: more => fromPlainLineEnd fuel (pastClosing more.length ')' more)
      | _ => fromPlainLineEnd fuel rest
    | _ => fromPlainLineEnd fuel rest

/-- The lines of a text up to one that is a given word, whether there is one, and what follows it.
Where `joins` holds, the outputs of commands go on over ends of lines. -/
def linesUntil (word : List Char) (withoutTabs joins : Bool) :
    Nat → List Char → List Char × Bool × List Char
  | 0, _ | _, [] => ([], false, [])
  | fuel + 1, cs =>
    let cs := if withoutTabs then cs.dropWhile (· = '\t') else cs
    let line := cs.takeWhile (· ≠ '\n')
    let rest := cs.drop line.length
    if line = word then ([], true, rest.drop 1)
    else
      let rest := if joins then fromPlainLineEnd cs.length cs else rest
      let taken := cs.take (cs.length - rest.length)
      match rest with
      | [] => (taken, false, [])
      | _ :: more =>
        let (text, left) := linesUntil word withoutTabs joins fuel more
        (taken ++ '\n' :: text, left)

/-- Take the text that is written after the present line, up to a line that is a given word. The
number of its first line comes with it, and the number of lines that its end takes up. -/
def takeHereText (word : List Char) (withoutTabs joins : Bool) :
    Reader (List Char × Nat × Nat) := do
  let s ← get
  let tail := fromLineEnd (s.rest.length + 1) false s.rest
  let front := s.rest.take (s.rest.length - tail.length)
  let line := s.line + front.count '\n' + 1
  match tail with
  | [] => return ([], line, 0)
  | _ :: after =>
    let before := (Entries.get? after.length s.missing).getD 0
    let (text, isEnded, left) := linesUntil word withoutTabs joins (after.length + 1) after
    let isLast := isEnded && left.isEmpty && after.getLast? ≠ some '\n'
    let taken := after.count '\n' - left.count '\n' + isLast.toNat
    let others := s.missing.filter (·.1 ≠ after.length)
    set { s with
      rest := front ++ '\n' :: left
      missing := (left.length, before + taken) :: others }
    return (text, line + before, isEnded.toNat)

/-- The word that ends a text in a script, and whether a part of it is quoted. -/
def hereWord : Nat → Reader (List Char × Bool)
  | 0 => return ([], false)
  | fuel + 1 => do
    match ← ahead with
    | [] => return ([], false)
    | '\'' :: _ =>
      advance 1
      let inner ← takeWhile (· ≠ '\'')
      if !(← accept "'") then complain "Syntax error: Unterminated quoted string"
      return (inner ++ (← hereWord fuel).1, true)
    | '"' :: _ =>
      advance 1
      let inner ← takeWhile (· ≠ '"')
      if !(← accept "\"") then complain "Syntax error: Unterminated quoted string"
      return (inner ++ (← hereWord fuel).1, true)
    | '\\' :: '\n' :: _ =>
      advance 2
      hereWord fuel
    | '\\' :: c :: _ =>
      advance 2
      return (c :: (← hereWord fuel).1, true)
    | c :: _ =>
      if endsWord c then return ([], false)
      else
        advance 1
        let (rest, quoted) ← hereWord fuel
        return (c :: rest, quoted)

/-- Put the words of an alias in place of a word that follows. A word that is put there because of
an alias does not stand for that alias again. Where `always` is false, this happens only after an
alias that a blank ends. -/
def substitute (always : Bool) : Nat → Reader Unit
  | 0 => pure ()
  | fuel + 1 => do
    let s ← get
    let isOver (use : AliasUse) : Bool := s.rest.length ≤ use.after
    let continues := s.used.any fun use => isOver use && use.endsBlank
    let used := s.used.filter (!isOver ·)
    set { s with used := used }
    let word := String.ofList (s.rest.takeWhile (!endsWord ·))
    match Entries.get? word s.aliases with
    | some text =>
      if (always || continues) && used.all (·.name != word) then
        let after := s.rest.drop word.length
        let endsBlank := text.toList.getLast?.any fun c => c = ' ' || c = '\t'
        set { s with
          rest := text.toList ++ after
          used := ⟨word, after.length, endsBlank⟩ :: used }
        if !text.isEmpty then
          skipBlank fuel
          substitute always fuel
    | none => pure ()

mutual

/-- Go past a word, if one follows. -/
def passWord : Nat → Reader Unit
  | 0 => pure ()
  | fuel + 1 => do
    if (← ahead).head?.any fun c => !endsWord c then
      let _ ← pieces .word fuel

/-- The pieces of a word up to the end of its context. -/
def pieces (context : Context) : Nat → Reader (List Piece)
  | 0 => complain "Syntax error: word unexpected"
  | fuel + 1 => do
    let quoted := context.isQuoted
    match ← ahead, context with
    | [], _ => context.missingEnd
    | '"' :: _, .doubleQuoted => advance 1; return []
    | '\x7d' :: _, .braced _ => advance 1; return []
    | ')' :: ')' :: _, .sum 0 => advance 2; return []
    | ')' :: _, .sum (depth + 1) =>
      advance 1
      return .text [')'] true :: (← pieces (.sum depth) fuel)
    | '(' :: _, .sum depth =>
      advance 1
      return .text ['('] true :: (← pieces (.sum (depth + 1)) fuel)
    | '\\' :: '\n' :: _, _ => advance 2; pieces context fuel
    | '\\' :: c :: _, _ =>
      let isPlain : Bool :=
        match context, c with
        | .hereText, '"' => true
        | .braced true, '\x7d' => false
        | _, c => !("$\x60\"\\".toList.contains c)
      advance 2
      if quoted && isPlain then return .text ['\\', c] true :: (← pieces context fuel)
      else return .text [c] true :: (← pieces context fuel)
    | '\'' :: _, .word | '\'' :: _, .braced false =>
      let piece ← singleQuoted
      return piece :: (← pieces context fuel)
    | '"' :: _, .word | '"' :: _, .braced _ =>
      advance 1
      let inner ← pieces .doubleQuoted fuel
      return .text [] true :: inner ++ (← pieces context fuel)
    | '$' :: _, _ =>
      advance 1
      let piece ← dollar quoted fuel
      return piece :: (← pieces context fuel)
    | '\x60' :: _, _ =>
      advance 1
      let text ← backquoted quoted fuel
      let outer ← get
      set { outer with rest := text, line := 1, missing := [], hereLines := none }
      let body ← commandList true fuel
      set outer
      return .output body quoted :: (← pieces context fuel)
    | c :: _, _ =>
      if context = .word && endsWord c then return []
      else
        advance 1
        return .text [c] quoted :: (← pieces context fuel)

/-- The piece after a dollar sign. -/
def dollar (quoted : Bool) : Nat → Reader Piece
  | 0 => complain "Syntax error: word unexpected"
  | fuel + 1 => do
    if ← accept "((" then return .sum (← pieces (.sum 0) fuel) quoted
    else if ← accept "(" then
      let hereLines := (← get).hereLines
      modify ({ · with hereLines := none })
      let body ← commandList true fuel
      skipLines fuel
      expectClosing (passWord fuel) true fuel
      modify ({ · with hereLines := hereLines })
      return .output body quoted
    else if ← accept "\x7b" then braces quoted fuel
    else
      match ← ahead with
      | c :: _ =>
        if c.isDigit then
          advance 1
          return .parameter (String.singleton c) .plain false [] quoted
        else if startsName c || isMark c then
          return .parameter (← parameterName) .plain false [] quoted
        else return .text ['$'] quoted
      | [] => return .text ['$'] quoted

/-- A parameter between braces. -/
def braces (quoted : Bool) : Nat → Reader Piece
  | 0 => complain "Syntax error: word unexpected"
  | fuel + 1 => do
    match ← ahead with
    | '#' :: c :: rest =>
      if isNameChar c then
        advance 1
        let name ← parameterName
        if ← accept "\x7d" then return .parameter name .length false [] quoted
        else
          let word ← pieces (.braced quoted) fuel
          return .parameter name .unknown false word quoted
      else if c != '\x7d' && rest.head? = some '\x7d' then
        advance 3
        let name := String.singleton c
        return .parameter name (if isMark c then .length else .unknown) false [] quoted
    | _ => pure ()
    let name ← parameterName
    if ← accept "\x7d" then
      return .parameter name (if name = "" then .unknown else .plain) false [] quoted
    else if name = "" then
      swallow 1
      return .parameter name .unknown false (← pieces (.braced quoted) fuel) quoted
    else
      let (change, orEmpty) ← change
      let isCut : Bool :=
        match change with
        | .withoutFront _ | .withoutEnd _ => true
        | _ => false
      if change = .unknown then swallow (if (← ahead).head? = some ':' then 2 else 1)
      let word ← pieces (.braced (quoted && !isCut)) fuel
      return .parameter name change orEmpty word quoted

/-- A redirection, if one follows. -/
def redirection? : Nat → Reader (Option Redirection)
  | 0 => pure none
  | fuel + 1 => do
    let (given, signs) : Option Nat × List Char :=
      match ← ahead with
      | d :: rest => if d.isDigit then (some (d.toNat - 48), rest) else (none, d :: rest)
      | [] => (none, [])
    match signs with
    | '<' :: _ | '>' :: _ =>
      if given.isSome then advance 1
      let target : Reader Word := do
        skipBlank fuel
        if (← tokenName false) ≠ "word" then unexpected (pure ())
        pieces .word fuel
      if ← accept "<<" then
        let withoutTabs ← accept "-"
        skipBlank fuel
        if (← tokenName false) ≠ "word" then unexpected (pure ())
        let (word, isQuoted) ← hereWord fuel
        let (text, line, lines) ← takeHereText word withoutTabs !isQuoted
        if !isQuoted then
          let outer ← get
          set { outer with rest := text, line := line, missing := [], hereLines := some lines }
          let content ← pieces .hereText fuel
          set outer
          return some (.hereText (given.getD 0) content)
        else return some (.hereText (given.getD 0) [.text text true])
      else if ← accept "<&" then return some (.to (given.getD 0) .duplicate (← target))
      else if ← accept "<>" then return some (.to (given.getD 0) .readWrite (← target))
      else if ← accept "<" then return some (.to (given.getD 0) .read (← target))
      else if ← accept ">&" then return some (.to (given.getD 1) .duplicate (← target))
      else if ← accept ">>" then return some (.to (given.getD 1) .append (← target))
      else if ← accept ">|" then return some (.to (given.getD 1) .overwrite (← target))
      else
        let _ ← accept ">"
        return some (.to (given.getD 1) .write (← target))
    | _ => return none

/-- The redirections that follow a compound command. -/
def redirections : Nat → Reader (List Redirection)
  | 0 => pure []
  | fuel + 1 => do
    skipBlank fuel
    match ← redirection? fuel with
    | some r => return r :: (← redirections fuel)
    | none => return []

/-- The rest of a simple command. Its line is the one on which its first token ends. -/
def simple (line : Option Nat) (assignments : List (String × Word)) (words : List Word)
    (redirections : List Redirection) : Nat → Reader Command
  | 0 => complain "Syntax error: word unexpected"
  | fuel + 1 => do
    skipBlank fuel
    substitute words.isEmpty fuel
    let begun := line.getD (← get).line
    match ← redirection? fuel with
    | some r => simple begun assignments words (redirections ++ [r]) fuel
    | none =>
      let rest ← ahead
      let name := rest.takeWhile isNameChar
      if words.isEmpty && name.head?.any startsName && rest[name.length]? = some '=' then
        advance (name.length + 1)
        let value ← pieces .word fuel
        let line := line.getD (← get).line
        simple line (assignments ++ [(String.ofList name, value)]) words redirections fuel
      else
        let word ← pieces .word fuel
        let line := line.getD (← get).line
        if !word.isEmpty then simple line assignments (words ++ [word]) redirections fuel
        else if words.isEmpty && assignments.isEmpty && redirections.isEmpty then
          unexpected (passWord fuel)
        else if words.length = 1 && assignments.isEmpty && redirections.isEmpty &&
            (← ahead).head? = some '(' then
          advance 1
          expectClosing (passWord fuel) false fuel
          let name := plainText words.flatten
          if !isPlain words.flatten || !name.toList.head?.any startsName ||
              !name.toList.all isNameChar || specialNames.contains name then
            complain "Syntax error: Bad function name"
          skipLines fuel
          return .define name (← command fuel)
        else return .simple line assignments words redirections

/-- The words of a loop. -/
def loopWords : Nat → Reader (List Word)
  | 0 => pure []
  | fuel + 1 => do
    skipBlank fuel
    let word ← pieces .word fuel
    if word.isEmpty then return [] else return word :: (← loopWords fuel)

/-- The patterns before a case. -/
def patterns : Nat → Reader (List Word)
  | 0 => pure []
  | fuel + 1 => do
    skipBlank fuel
    let word ← pieces .word fuel
    if word.isEmpty then
      /- Any token may stand for a pattern; what is wrong shows at the next one. -/
      let rest ← ahead
      match operators.find? fun op => op.toList.isPrefixOf rest with
      | some op => advance op.length
      | none => advance 1
    skipBlank fuel
    if "||".toList.isPrefixOf (← ahead) then return [word]
    else if ← accept "|" then return word :: (← patterns fuel)
    else return [word]

/-- The cases of a selection. -/
def cases : Nat → Reader (List (List Word × Command))
  | 0 => pure []
  | fuel + 1 => do
    skipLines fuel
    if (← reserved?) = some "esac" then
      advance 4
      return []
    if (← ahead).isEmpty then expecting (pure ()) ")"
    let _ ← accept "("
    let words ← patterns fuel
    expectClosing (passWord fuel) false fuel
    let body ← commandList true fuel
    skipLines fuel
    if ← accept ";;" then return (words, .sequence body) :: (← cases fuel)
    else if (← reserved?) = some "esac" then
      advance 4
      return [(words, .sequence body)]
    else expecting (passWord fuel) ";;"

/-- The rest of a conditional, after its first word. -/
def conditional : Nat → Reader Command
  | 0 => complain "Syntax error: word unexpected"
  | fuel + 1 => do
    let condition ← commandList false fuel
    expectWord (passWord fuel) "then" fuel
    let body ← commandList false fuel
    skipBlank fuel
    match ← reserved? with
    | some "elif" =>
      advance 4
      return .branch (.sequence condition) (.sequence body) (← conditional fuel)
    | some "else" =>
      advance 4
      let otherwise ← commandList false fuel
      expectWord (passWord fuel) "fi" fuel
      return .branch (.sequence condition) (.sequence body) (.sequence otherwise)
    | _ =>
      expectWord (passWord fuel) "fi" fuel
      return .branch (.sequence condition) (.sequence body) (.sequence [])

/-- The body of a loop. -/
def loopBody : Nat → Reader Command
  | 0 => complain "Syntax error: word unexpected"
  | fuel + 1 => do
    skipLines fuel
    expectWord (passWord fuel) "do" fuel
    let body ← commandList false fuel
    expectWord (passWord fuel) "done" fuel
    return .sequence body

/-- A compound command that begins with a reserved word. -/
def compound (word : String) : Nat → Reader Command
  | 0 => complain "Syntax error: word unexpected"
  | fuel + 1 => do
    match word with
    | "if" => advance 2; conditional fuel
    | "while" | "until" =>
      advance 5
      let condition ← commandList false fuel
      return .loop (word = "until") (.sequence condition) (← loopBody fuel)
    | "for" =>
      advance 3
      skipBlank fuel
      let isEnded := (← ahead).head? = some '\n'
      if isEnded then advance 1
      let word ← if isEnded then pure [] else pieces .word fuel
      let name := plainText word
      if !isPlain word || !name.toList.head?.any startsName || !name.toList.all isNameChar then
        complain "Syntax error: Bad for loop variable"
      skipLines fuel
      let words ←
        if (← ahead).take 2 = ['i', 'n'] && (← ahead)[2]?.all endsWord then do
          advance 2
          let words ← loopWords fuel
          if !((← ahead).head?.any fun c => c = '\n' || c = ';') || (← isCaseEnd) then
            unexpected (passWord fuel)
          pure (some words)
        else pure none
      if !(← isCaseEnd) then
        let _ ← accept ";"
      return .each name words (← loopBody fuel)
    | "case" =>
      advance 4
      skipBlank fuel
      if (← tokenName false) ≠ "word" then
        stopAtToken (pure ()) false " (expecting word)"
      let subject ← pieces .word fuel
      skipLines fuel
      if (← ahead).take 2 = ['i', 'n'] && (← ahead)[2]?.all endsWord then advance 2
      else expecting (passWord fuel) "in"
      return .select subject (← cases fuel)
    | "\x7b" =>
      advance 1
      let body ← commandList false fuel
      expectWord (passWord fuel) "\x7d" fuel
      return .sequence body
    | _ => unexpected (passWord fuel)

/-- A command. -/
def command : Nat → Reader Command
  | 0 => complain "Syntax error: word unexpected"
  | fuel + 1 => do
    skipBlank fuel
    let made : Option Command ←
      if (← ahead).head? = some '(' then do
        advance 1
        let body ← commandList false fuel
        skipLines fuel
        expectClosing (passWord fuel) true fuel
        pure (some (.subshell (.sequence body)))
      else
        if (← reserved?).isNone then substitute true fuel
        match ← reserved? with
        | some word => some <$> compound word fuel
        | none => pure none
    match made with
    | none => simple none [] [] [] fuel
    | some body =>
      let following ← redirections fuel
      return if following.isEmpty then body else .redirected body following

/-- The commands after the first one of a pipe. -/
def pipeRest : Nat → Reader (List Command)
  | 0 => pure []
  | fuel + 1 => do
    skipBlank fuel
    match ← ahead with
    | '|' :: '|' :: _ => return []
    | '|' :: _ =>
      advance 1
      skipLines fuel
      let stage ← command fuel
      return stage :: (← pipeRest fuel)
    | _ => return []

/-- Commands that are joined by pipes. -/
def pipe : Nat → Reader Command
  | 0 => complain "Syntax error: word unexpected"
  | fuel + 1 => do
    skipBlank fuel
    let negated := (← reserved?) = some "!"
    if negated then advance 1
    let first ← command fuel
    let rest ← pipeRest fuel
    return if !negated && rest.isEmpty then first else .pipe negated (first :: rest)

/-- Commands that are joined by conditions, after the first one. -/
def conditionals (first : Command) : Nat → Reader Command
  | 0 => pure first
  | fuel + 1 => do
    skipBlank fuel
    if ← accept "&&" then
      skipLines fuel
      let second ← pipe fuel
      conditionals (.and first second) fuel
    else if ← accept "||" then
      skipLines fuel
      let second ← pipe fuel
      conditionals (.or first second) fuel
    else return first

/-- The commands of a list. -/
def commandList (allowEmpty : Bool) : Nat → Reader (List Command)
  | 0 => pure []
  | fuel + 1 => do
    skipLines fuel
    if (← ahead).isEmpty || (allowEmpty && (← atListEnd)) then return []
    let first ← conditionals (← pipe fuel) fuel
    skipBlank fuel
    match ← ahead with
    | ';' :: ';' :: _ => return [first]
    | ';' :: _ =>
      advance 1
      return first :: (← commandList true fuel)
    | '&' :: _ =>
      advance 1
      return .background (← get).line first :: (← commandList true fuel)
    | '\n' :: _ => return first :: (← commandList true fuel)
    | _ => return [first]

end

/-- The commands up to the end of a line. -/
def line : Nat → Reader (List Command)
  | 0 => pure []
  | fuel + 1 => do
    skipBlank fuel
    match ← ahead with
    | [] => return []
    | '\n' :: _ => advance 1; return []
    | _ =>
      let first ← conditionals (← pipe fuel) fuel
      skipBlank fuel
      match ← ahead with
      | [] => return [first]
      | '\n' :: _ => advance 1; return [first]
      | ';' :: ';' :: _ => unexpected (passWord fuel)
      | ';' :: _ => advance 1; return first :: (← line fuel)
      | '&' :: _ =>
        advance 1
        return .background (← get).line first :: (← line fuel)
      | _ => unexpected (passWord fuel)

/-- The pieces of a text between double quotes that it lacks itself. -/
def quotedPieces (text : String) : Except Complaint (List Piece) :=
  (pieces .hereText (8 * text.length + 32)).run' { rest := text.toList, line := 1 }

/-- The commands of the next line of a script, and what follows it. -/
def nextLine (source : Source) : Except Complaint (List Command × Source) :=
  (line (8 * source.rest.length + 32)).run source

end Reader

end ConfigTemplate.Shell
