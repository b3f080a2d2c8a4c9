import ConfigTemplate.Shell.Programs.Records.Script
import ConfigTemplate.Shell.Programs.Records.Value

/-!
# The tokens of scripts for records

A script is read byte by byte. Whether a slash begins a pattern or divides depends on what comes
before it, and a name that an opening parenthesis follows is that of a function.
-/

namespace ConfigTemplate.Shell.Programs.Records

open Text (Bytes)

/-- A token. -/
inductive Token where
  | number (x : Float)
  | text (content : Bytes)
  | pattern (source : List Char)
  | name (name : String)
  /-- The name of a function. -/
  | function (name : String)
  | builtin (name : String)
  | keyword (name : String)
  | mark (sign : String)
  | lineEnd
  | finish
  /-- What cannot be read, with the complaint. -/
  | flaw (complaint : String)
  deriving Repr, BEq

/-- The keywords. -/
def keywords : List String :=
  ["BEGIN", "END", "function", "if", "else", "while", "for", "do", "break", "continue", "next",
    "nextfile", "exit", "return", "delete", "in", "getline", "print", "printf"]

/-- The functions that there are. -/
def builtins : List String :=
  ["length", "substr", "index", "split", "sub", "gsub", "match", "sprintf", "sin", "cos", "atan2",
    "exp", "log", "sqrt", "int", "rand", "srand", "tolower", "toupper", "system", "close",
    "fflush", "systime", "strftime", "mktime"]

/-- The signs, longer ones before their parts. -/
def signs : List String :=
  ["&&", "||", "++", "--", "+=", "-=", "*=", "/=", "%=", "^=", "==", "<=", ">=", "!=", "!~", ">>",
    "\x7b", "\x7d", "(", ")", "[", "]", ";", ",", "+", "-", "*", "/", "%", "^", "!", ">", "<", "|",
    "?", ":", "~", "$", "="]

/-- A name may begin with this character. -/
def isNameFront (c : Char) : Bool := c.isAlpha || c = '_'

/-- A name may go on with this character. -/
def isNameChar (c : Char) : Bool := c.isAlphanum || c = '_'

/-- The characters that escapes stand for. -/
def escapes : List (Char × Char) :=
  [('n', '\n'), ('t', '\t'), ('r', '\r'), ('a', '\x07'), ('b', '\x08'), ('f', '\x0c'),
    ('v', '\x0b')]

/-- The character that the digits after a backslash write, and what follows them. -/
def numbered? (cs : List Char) : Option (Char × List Char) :=
  let isOctal (c : Char) : Bool := '0' ≤ c && c ≤ '7'
  match cs with
  | 'x' :: rest =>
    let digits := (rest.take 2).takeWhile fun c => (Json.Reader.hexValue? c).isSome
    if digits.isEmpty then none
    else
      let code := digits.foldl (fun n c => n * 16 + (Json.Reader.hexValue? c).getD 0) 0
      some (Char.ofNat code, rest.drop digits.length)
  | cs =>
    let digits := (cs.take 3).takeWhile isOctal
    if digits.isEmpty then none
    else
      let code := digits.foldl (fun n c => n * 8 + (c.toNat - 48)) 0
      some (Char.ofNat (code % 256), cs.drop digits.length)

/-- A text with its escapes. A backslash before anything else stays. -/
def unescaped : Nat → List Char → List Char
  | 0, _ => []
  | _ + 1, [] => []
  | fuel + 1, '\\' :: rest =>
    match numbered? rest with
    | some (c, rest) => c :: unescaped fuel rest
    | none =>
      match rest with
      | [] => ['\\']
      | c :: rest =>
        if c = '\n' then unescaped fuel rest
        else if c = '"' || c = '\\' then c :: unescaped fuel rest
        else
          match escapes.find? (·.1 = c) with
          | some (_, stands) => stands :: unescaped fuel rest
          | none => '\\' :: c :: unescaped fuel rest
  | fuel + 1, c :: rest => c :: unescaped fuel rest

/-- The characters up to the closing quote of a text, and what follows it; none if it is not
closed on its line. -/
def untilQuote? : List Char → Option (List Char × List Char)
  | [] | '\n' :: _ => none
  | '"' :: rest => some ([], rest)
  | '\\' :: c :: rest => (untilQuote? rest).map fun (cs, rest) => ('\\' :: c :: cs, rest)
  | c :: rest => (untilQuote? rest).map fun (cs, rest) => (c :: cs, rest)

/-- The characters up to the closing slash of a pattern, and what follows it; a slash between
brackets does not close it. `place` counts the characters after an opening bracket. -/
def untilSlash? : Option Nat → List Char → Option (List Char × List Char)
  | _, [] | _, '\n' :: _ => none
  | none, '/' :: rest => some ([], rest)
  | place, '\\' :: c :: rest =>
    (untilSlash? (place.map (· + 2)) rest).map fun (cs, rest) => ('\\' :: c :: cs, rest)
  | none, '[' :: rest => (untilSlash? (some 0) rest).map fun (cs, rest) => ('[' :: cs, rest)
  | some place, ']' :: rest =>
    (untilSlash? (if place = 0 then some 1 else none) rest).map fun (cs, rest) => (']' :: cs, rest)
  | some 0, '^' :: rest => (untilSlash? (some 0) rest).map fun (cs, rest) => ('^' :: cs, rest)
  | place, c :: rest =>
    (untilSlash? (place.map (· + 1)) rest).map fun (cs, rest) => (c :: cs, rest)

/-- Whether the limits of a repetition follow an opening brace. -/
def limitsFollow (cs : List Char) : Bool :=
  let inner := cs.takeWhile (· ≠ '\x7d')
  inner.length < cs.length && inner.head?.any Char.isDigit &&
    inner.all (fun c => c.isDigit || c = ',') && (inner.filter (· = ',')).length ≤ 1

/-- A pattern as regular expressions are written: escapes are replaced, and a backslash stays only
where it takes a sign's meaning away. -/
def plainPattern : Nat → List Char → List Char
  | 0, _ => []
  | _ + 1, [] => []
  | fuel + 1, '\\' :: rest =>
    match numbered? rest, rest with
    | some (c, rest), _ => quoted c ++ plainPattern fuel rest
    | none, [] => ['\\', '\\']
    | none, c :: rest =>
      match escapes.find? (·.1 = c) with
      | some (_, stands) => stands :: plainPattern fuel rest
      | none => quoted c ++ plainPattern fuel rest
  | fuel + 1, '\x7b' :: rest =>
    if limitsFollow rest then '\x7b' :: plainPattern fuel rest
    else '\\' :: '\x7b' :: plainPattern fuel rest
  | fuel + 1, c :: rest => c :: plainPattern fuel rest
where
  /-- A character without any meaning. -/
  quoted (c : Char) : List Char :=
    if ".[]()*+?\x7b\x7d|^$\\-".toList.contains c then ['\\', c] else [c]

/-- The text of characters each of which stands for a byte. -/
def shown (cs : List Char) : String := Run.textOf (bytesIn cs)

/-- The expression of a pattern, or the complaint about it. -/
def patternOf (source : List Char) : Except String Regular :=
  let cs := plainPattern (source.length + 1) source
  match Regular.read ⟨true, false, true, false⟩ cs with
  | .ok r => .ok r
  | .error flaw =>
    let wording : String :=
      match flaw with
      | .unclosedGroup => "missing ')'"
      | .unopenedGroup => "missing '('"
      | .nothingToRepeat => "missing operand"
      | .unclosedSet | .emptySet => "bad class -- [], [^] or ["
      | _ => "syntax error ^* or ^+"
    .error s!"regular expression compile failed ({wording})\n{shown source}"

/-- Whether what follows a token may be divided. -/
def Token.isValueEnd : Token → Bool
  | .number _ | .text _ | .pattern _ | .name _ => true
  | .keyword word => word = "getline"
  | .mark sign => sign = ")" || sign = "]" || sign = "++" || sign = "--"
  | _ => false

/-- The number at the front of a text, and what follows it. -/
def numeral (cs : List Char) : Float × List Char :=
  (Decimal.Front.decimal? cs).getD (0.0, cs)

/-- The token of a name. -/
def nameToken (functions : List String) (name : String) (opens : Bool) : Token :=
  if name = "func" then .keyword "function"
  else if keywords.contains name then .keyword name
  else if builtins.contains name then .builtin name
  else if opens || functions.contains name then .function name
  else .name name

/-- The tokens of a script with their lines, after a token; `functions` are those that are known. -/
def tokensFrom : Nat → List String → Nat → Token → List Char → List (Token × Nat)
  | 0, _, line, _, _ => [(.finish, line)]
  | fuel + 1, functions, line, previous, cs =>
    let go (token : Token) (rest : List Char) : List (Token × Nat) :=
      (token, line) :: tokensFrom fuel functions line token rest
    match cs with
    | [] =>
      match previous with
      | .lineEnd => [(.finish, line)]
      | _ => [(.lineEnd, line), (.finish, line + 1)]
    | '\n' :: rest => (.lineEnd, line) :: tokensFrom fuel functions (line + 1) .lineEnd rest
    | '\\' :: '\n' :: rest => tokensFrom fuel functions (line + 1) previous rest
    | '\\' :: '\r' :: '\n' :: rest => tokensFrom fuel functions (line + 1) previous rest
    | '#' :: rest => tokensFrom fuel functions line previous (rest.dropWhile (· ≠ '\n'))
    | '"' :: rest =>
      match untilQuote? rest with
      | some (body, rest) => go (.text (bytesIn (unescaped (body.length + 1) body))) rest
      | none =>
        let front := shown ((rest.takeWhile (· ≠ '\n')).take 10)
        [(.flaw s!"line {line}: runaway string constant \"{front} ...", line)]
    | c :: rest =>
      if c = ' ' || c = '\t' || c = '\r' then tokensFrom fuel functions line previous rest
      else if isNameFront c then
        let name := String.ofList (cs.takeWhile isNameChar)
        let rest := cs.dropWhile isNameChar
        let token := nameToken functions name (rest.head? = some '(')
        let functions :=
          match previous, token with
          | .keyword "function", .function name | .keyword "function", .name name =>
            name :: functions
          | _, _ => functions
        (token, line) :: tokensFrom fuel functions line token rest
      else if c.isDigit || (c = '.' && rest.head?.any Char.isDigit) then
        let (x, after) := numeral cs
        go (.number x) after
      else if c = '/' && !previous.isValueEnd then
        match untilSlash? none rest with
        | some (body, rest) => go (.pattern body) rest
        | none =>
          let front := shown ((rest.takeWhile (· ≠ '\n')).take 10)
          [(.flaw s!"line {line}: runaway regular expression /{front} ...", line)]
      else
        match signs.find? fun sign => sign.toList.isPrefixOf cs with
        | some sign => go (.mark sign) (cs.drop sign.length)
        | none => [(.flaw s!"{line}: unexpected character '{c}'", line)]

/-- The tokens of a script with their lines. -/
def tokensOf (text : Bytes) : List (Token × Nat) :=
  tokensFrom (text.length + 1) [] 1 .lineEnd (charsOf text)

end ConfigTemplate.Shell.Programs.Records
