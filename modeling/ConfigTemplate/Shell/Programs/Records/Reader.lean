import ConfigTemplate.Shell.Programs.Records.Lexer

/-!
# Reading scripts for records

The grammar of scripts. Operators bind from the loosest to the tightest as follows: choices,
alternatives, conjunctions, membership, matches, comparisons, joins, sums, products, signs, reading
from commands, powers, steps, fields. Within output, a greater sign and a bar say where the output
goes.
-/

namespace ConfigTemplate.Shell.Programs.Records

open Text (Bytes)
open Run (bytesOf textOf)

/-- How far a script has been read, and what the present place is within. -/
structure Cursor where
  tokens : List (Token × Nat)
  parentheses : Nat
  braces : Nat
  loops : Nat
  /-- Whether records are at hand, so that one may go on to the next one. -/
  hasRecords : Bool
  isFunction : Bool
  /-- The functions that are called, with the numbers of their arguments and the lines. -/
  calls : List (String × Nat × Nat)

/-- Reading, which may end with complaints. -/
abbrev Reading := StateT Cursor (Except (List String))

namespace Reading

/-- The next token. -/
def peek : Reading Token := do return ((← get).tokens.head?.map (·.1)).getD .finish

/-- The line of the next token. -/
def line : Reading Nat := do return ((← get).tokens.head?.map (·.2)).getD 1

/-- Go past the next token. -/
def advance : Reading Unit := modify fun c => { c with tokens := c.tokens.drop 1 }

/-- Complain at the line of the next token. -/
def complain {α : Type} (text : String) : Reading α := do throw [s!"line {← line}: {text}"]

/-- The text of a token in complaints. -/
def shownToken : Token → String
  | .number x => textOf (numberText (bytesOf "%.6g") x)
  | .text content => textOf content
  | .pattern source => s!"/{shown source}/"
  | .name name | .function name | .builtin name | .keyword name => name
  | .mark sign => sign
  | .lineEnd | .finish => "end of line"
  | .flaw complaint => complaint

/-- Complain about the next token, which does not belong here. -/
def reject {α : Type} : Reading α := do
  let c ← get
  let token ← peek
  match token with
  | .flaw complaint => throw [complaint]
  | .finish =>
    if c.braces ≠ 0 then complain "missing \x7d near end of file"
    else complain "syntax error at or near end of line"
  | .mark "\x7d" =>
    if c.braces = 0 then
      let text := s!"line {← line}: "
      throw [text ++ "extra '\x7d'", text ++ "syntax error at or near end of line"]
    else if c.parentheses ≠ 0 then complain "missing ) near \x7d"
    else complain "syntax error at or near \x7d"
  | .mark ")" =>
    if c.parentheses = 0 then complain "extra ')'" else complain "syntax error at or near )"
  | .lineEnd =>
    if c.parentheses ≠ 0 then complain "missing ) near end of line"
    else complain "syntax error at or near end of line"
  | token => complain s!"syntax error at or near {shownToken token}"

/-- Whether the next token is a sign. -/
def sees (sign : String) : Reading Bool := do return (← peek) == .mark sign

/-- Whether the next token is a keyword. -/
def seesWord (word : String) : Reading Bool := do return (← peek) == .keyword word

/-- Go past a sign, which has to come. -/
def expect (sign : String) : Reading Unit := do
  if ← sees sign then
    advance
    modify fun c =>
      match sign with
      | "(" => { c with parentheses := c.parentheses + 1 }
      | ")" => { c with parentheses := c.parentheses - 1 }
      | "\x7b" => { c with braces := c.braces + 1 }
      | "\x7d" => { c with braces := c.braces - 1 }
      | _ => c
  else reject

/-- Go past the ends of lines. -/
def skipLines : Reading Unit := modify fun c =>
  { c with tokens := c.tokens.dropWhile fun (token, _) => token == .lineEnd }

/-- A name, which has to come. -/
def name : Reading String := do
  match ← peek with
  | .name name =>
    advance
    return name
  | _ => reject

/-- The operation of a sign that assigns. -/
def assignment? : Token → Option (Option Operation)
  | .mark "=" => some none
  | .mark "+=" => some (some .add)
  | .mark "-=" => some (some .subtract)
  | .mark "*=" => some (some .multiply)
  | .mark "/=" => some (some .divide)
  | .mark "%=" => some (some .remainder)
  | .mark "^=" => some (some .power)
  | _ => none

/-- The comparison of a sign. -/
def comparison? (isOutput : Bool) : Token → Option Comparison
  | .mark "<" => some .less
  | .mark "<=" => some .atMost
  | .mark "==" => some .equal
  | .mark "!=" => some .different
  | .mark ">=" => some .atLeast
  | .mark ">" => if isOutput then none else some .greater
  | _ => none

/-- Whether a token can go on with what is joined. -/
def joins : Token → Bool
  | .number _ | .text _ | .pattern _ | .name _ | .function _ | .builtin _ => true
  | .mark sign => ["$", "!", "(", "-", "+", "++", "--"].contains sign
  | _ => false

/-- The numbers of arguments that functions take. -/
def argumentLimits : List (String × Nat × Nat) :=
  [("length", 0, 1), ("substr", 2, 3), ("index", 2, 2), ("split", 2, 3), ("sub", 2, 3),
    ("gsub", 2, 3), ("match", 2, 2), ("sprintf", 1, 1000), ("sin", 1, 1), ("cos", 1, 1),
    ("atan2", 2, 2), ("exp", 1, 1), ("log", 1, 1), ("sqrt", 1, 1), ("int", 1, 1), ("rand", 0, 0),
    ("srand", 0, 1), ("tolower", 1, 1), ("toupper", 1, 1), ("system", 1, 1), ("close", 1, 1),
    ("fflush", 0, 1), ("systime", 0, 0), ("strftime", 0, 3), ("mktime", 1, 1)]

/-- What operands and operators of one level are together: operands one after the other, each
with the operator before it. -/
def leftward {ω : Type} (operand : Reading Expression) (operator? : Token → Option ω)
    (combine : ω → Expression → Expression → Expression) :
    Nat → Expression → Reading Expression
  | 0, a => return a
  | fuel + 1, a => do
    match operator? (← peek) with
    | none => return a
    | some op =>
      advance
      let b ← operand
      leftward operand operator? combine fuel (combine op a b)

/-- The operator of a sum. -/
def sum? : Token → Option Operation
  | .mark "+" => some .add
  | .mark "-" => some .subtract
  | _ => none

/-- The operator of a product. -/
def product? : Token → Option Operation
  | .mark "*" => some .multiply
  | .mark "/" => some .divide
  | .mark "%" => some .remainder
  | _ => none

/-- The operator of a match: whether it is negated. -/
def match? : Token → Option Bool
  | .mark "~" => some false
  | .mark "!~" => some true
  | _ => none

mutual

/-- An expression. -/
def expression (isOutput : Bool) : Nat → Reading Expression
  | 0 => reject
  | fuel + 1 => do
    let condition ← alternatives isOutput fuel
    if ← sees "?" then
      advance
      let yes ← expression isOutput fuel
      expect ":"
      let no ← expression isOutput fuel
      return .choice condition yes no
    else return condition

/-- Alternatives. -/
def alternatives (isOutput : Bool) : Nat → Reading Expression
  | 0 => reject
  | fuel + 1 => do
    let a ← conjunctions isOutput fuel
    if ← sees "||" then
      advance
      skipLines
      return .either a (← alternatives isOutput fuel)
    else return a

/-- Conditions that hold together. -/
def conjunctions (isOutput : Bool) : Nat → Reading Expression
  | 0 => reject
  | fuel + 1 => do
    let a ← members isOutput fuel
    if ← sees "&&" then
      advance
      skipLines
      return .both a (← conjunctions isOutput fuel)
    else return a

/-- Membership in tables, and what binds tighter. -/
def members (isOutput : Bool) : Nat → Reading Expression
  | 0 => reject
  | fuel + 1 => do
    let comparisons : Reading Expression := do
      let a ← joined isOutput fuel
      leftward (joined isOutput fuel) (comparison? isOutput) .compare fuel a
    let a ← comparisons
    let a ← leftward comparisons match? .matches fuel a
    memberOf fuel a

/-- What it is that an expression is a key of a table. -/
def memberOf : Nat → Expression → Reading Expression
  | 0, a => return a
  | fuel + 1, a => do
    if ← seesWord "in" then
      advance
      memberOf fuel (.contains [a] (← name))
    else return a

/-- An assignment, or texts that are joined. -/
def joined (isOutput : Bool) : Nat → Reading Expression
  | 0 => reject
  | fuel + 1 => do
    let a ← sum isOutput fuel
    match a, assignment? (← peek) with
    | .target place, some operation =>
      advance
      return .assign operation place (← expression isOutput fuel)
    | .group (_ :: _ :: _), _ => return a
    | _, _ => joinedTo isOutput fuel a

/-- A text with those that are joined to it. -/
def joinedTo (isOutput : Bool) : Nat → Expression → Reading Expression
  | 0, a => return a
  | fuel + 1, a => do
    if joins (← peek) then
      let b ← sum isOutput fuel
      joinedTo isOutput fuel (.join a b)
    else return a

/-- A sum. -/
def sum (isOutput : Bool) : Nat → Reading Expression
  | 0 => reject
  | fuel + 1 => do
    let product : Reading Expression := do
      let a ← signed isOutput fuel
      leftward (signed isOutput fuel) product? .compute fuel a
    let a ← product
    leftward product sum? .compute fuel a

/-- An expression with a sign before it. -/
def signed (isOutput : Bool) : Nat → Reading Expression
  | 0 => reject
  | fuel + 1 => do
    match ← peek with
    | .mark "!" =>
      advance
      return .not (← signed isOutput fuel)
    | .mark "-" =>
      advance
      return .negative (← signed isOutput fuel)
    | .mark "+" =>
      advance
      return .positive (← signed isOutput fuel)
    | _ =>
      let a ← power fuel
      if isOutput then return a else readFrom fuel a

/-- What is read from a command. -/
def readFrom : Nat → Expression → Reading Expression
  | 0, a => return a
  | fuel + 1, a => do
    match (← get).tokens with
    | (.mark "|", _) :: (.keyword "getline", _) :: _ =>
      advance
      advance
      readFrom fuel (.read (.command a) (← place? fuel))
    | _ => return a

/-- A power. -/
def power : Nat → Reading Expression
  | 0 => reject
  | fuel + 1 => do
    let a ← stepped fuel
    if ← sees "^" then
      advance
      let b ← exponent fuel
      return .compute .power a b
    else return a

/-- The exponent of a power, which may have a sign. -/
def exponent : Nat → Reading Expression
  | 0 => reject
  | fuel + 1 => do
    match ← peek with
    | .mark "!" =>
      advance
      return .not (← exponent fuel)
    | .mark "-" =>
      advance
      return .negative (← exponent fuel)
    | .mark "+" =>
      advance
      return .positive (← exponent fuel)
    | _ => power fuel

/-- A single expression with a step after it. -/
def stepped : Nat → Reading Expression
  | 0 => reject
  | fuel + 1 => do
    let a ← single fuel
    match a, ← peek with
    | .target place, .mark "++" =>
      advance
      return .step true 1.0 place
    | .target place, .mark "--" =>
      advance
      return .step true (-1.0) place
    | _, _ => return a

/-- A step before a place. -/
def stepBefore (amount : Float) : Nat → Reading Expression
  | 0 => reject
  | fuel + 1 => do
    match ← single fuel with
    | .target place => return .step false amount place
    | _ => reject

/-- A place that something is read into, if there is one. -/
def place? : Nat → Reading (Option Target)
  | 0 => return none
  | fuel + 1 => do
    let isPlace : Bool :=
      match ← peek with
      | .name _ | .mark "$" => true
      | _ => false
    if !isPlace then return none
    match ← single fuel with
    | .target place => return some place
    | _ => reject

/-- The expressions up to a closing sign. -/
def list : Nat → Reading (List Expression)
  | 0 => reject
  | fuel + 1 => do
    let a ← expression false fuel
    if ← sees "," then
      advance
      skipLines
      return a :: (← list fuel)
    else return [a]

/-- The arguments of a function between their parentheses. -/
def arguments : Nat → Reading (List Expression)
  | 0 => reject
  | fuel + 1 => do
    expect "("
    if ← sees ")" then
      expect ")"
      return []
    let all ← list fuel
    expect ")"
    return all

/-- A function that there is, with its arguments. -/
def builtinCall (function : String) : Nat → Reading Expression
  | 0 => reject
  | fuel + 1 => do
    let opens ← sees "("
    if !opens && ["length", "fflush", "rand", "srand", "systime"].contains function then
      return .builtin function []
    expect "("
    let all ← if ← sees ")" then pure [] else list fuel
    let wantsTable := function = "split"
    let wantsPlace := (function = "sub" || function = "gsub") && all.length = 3
    let isRight : Bool :=
      match all with
      | [_] => !(wantsTable || ["sub", "gsub", "match"].contains function)
      | _ :: .target (.variable _) :: _ => true
      | [_, _, .target _] => !wantsTable
      | _ => !wantsTable && !wantsPlace
    if !isRight then reject
    let (least, most) := (Entries.get? function argumentLimits).getD (0, 1000)
    if all.length < least || most < all.length then
      complain s!"wrong number of arguments in call to {function}"
    expect ")"
    return .builtin function all

/-- A single expression. -/
def single : Nat → Reading Expression
  | 0 => reject
  | fuel + 1 => do
    match ← peek with
    | .number x =>
      advance
      return .number x
    | .text content =>
      advance
      return .text content
    | .pattern source =>
      match patternOf source with
      | .error complaint => complain complaint
      | .ok r =>
        advance
        return .pattern r
    | .mark "$" =>
      advance
      return .target (.field (← fieldNumber fuel))
    | .mark "++" =>
      advance
      stepBefore 1.0 fuel
    | .mark "--" =>
      advance
      stepBefore (-1.0) fuel
    | .mark "(" =>
      expect "("
      let all ← list fuel
      expect ")"
      match all with
      | [a] =>
        match a with
        | .target _ => return .group [a]
        | a => return a
      | all =>
        if ← seesWord "in" then
          advance
          return .contains all (← name)
        else return .group all
    | .name name =>
      advance
      if ← sees "[" then
        advance
        let keys ← list fuel
        expect "]"
        return .target (.item name keys)
      else return .target (.variable name)
    | .function name =>
      let line ← line
      advance
      let all ← arguments fuel
      modify fun c => { c with calls := c.calls ++ [(name, all.length, line)] }
      return .call name all
    | .builtin name =>
      advance
      builtinCall name fuel
    | .keyword "getline" =>
      advance
      let place ← place? fuel
      if ← sees "<" then
        advance
        return .read (.file (← power fuel)) place
      else return .read .records place
    | _ => reject

/-- The number of a field. -/
def fieldNumber : Nat → Reading Expression
  | 0 => reject
  | fuel + 1 => do
    if ← sees "-" then
      advance
      return .negative (← fieldNumber fuel)
    else single fuel

end

/-- Go past the end of a statement. -/
def statementEnd : Reading Unit := do
  match ← peek with
  | .mark ";" => advance
  | .lineEnd => advance
  | .mark "\x7d" => pure ()
  | _ => reject

/-- Whether a statement ends here. -/
def isAtEnd : Reading Bool := do
  match ← peek with
  | .mark ";" | .mark "\x7d" | .lineEnd | .finish => return true
  | _ => return false

/-- What is written, and where it goes. -/
def output (fuel : Nat) : Reading (List Expression × Output) := do
  let isBare ←
    match ← peek with
    | .mark ">" | .mark ">>" | .mark "|" => pure true
    | _ => isAtEnd
  let values ← if isBare then pure [] else values fuel
  let values : List Expression :=
    match values with
    | [.group (a :: b :: rest)] => a :: b :: rest
    | values => values
  match ← peek with
  | .mark ">" =>
    advance
    return (values, .file (← expression true fuel))
  | .mark ">>" =>
    advance
    return (values, .fileEnd (← expression true fuel))
  | .mark "|" =>
    advance
    return (values, .command (← expression true fuel))
  | _ => return (values, .standard)
where
  /-- The values that are written. -/
  values : Nat → Reading (List Expression)
    | 0 => reject
    | fuel + 1 => do
      let a ← expression true fuel
      if ← sees "," then
        advance
        skipLines
        return a :: (← values fuel)
      else return [a]

/-- A statement that is no block and contains no other one, without its end. -/
def simple (fuel : Nat) : Reading Statement := do
  match ← peek with
  | .keyword "print" =>
    advance
    let (values, output) ← output fuel
    return .print values output
  | .keyword "printf" =>
    advance
    let opens ← sees "("
    let (values, output) ←
      if opens && ((← get).tokens.drop 1).head?.map (·.1) == some (.mark ")") then
        complain "no arguments in call to printf"
      else output fuel
    if values.isEmpty then complain "no arguments in call to printf"
    return .printFormatted values output
  | .keyword "next" =>
    if !(← get).hasRecords then complain "improper use of next"
    advance
    return .next
  | .keyword "nextfile" =>
    if !(← get).hasRecords then complain "improper use of nextfile"
    advance
    return .nextFile
  | .keyword "break" =>
    if (← get).loops = 0 then complain "break statement outside of loop"
    advance
    return .leave
  | .keyword "continue" =>
    if (← get).loops = 0 then complain "continue statement outside of loop"
    advance
    return .again
  | .keyword "exit" =>
    advance
    if ← isAtEnd then return .exit none else return .exit (some (← expression false fuel))
  | .keyword "return" =>
    if !(← get).isFunction then complain "return outside function body"
    advance
    if ← isAtEnd then return .back none else return .back (some (← expression false fuel))
  | .keyword "delete" =>
    advance
    let table ← name
    if ← sees "[" then
      advance
      let keys ← list fuel
      expect "]"
      return .erase table keys
    else return .erase table []
  | _ => return .expression (← expression false fuel)

/-- Something within a loop. -/
def looped {α : Type} (inner : Reading α) : Reading α := do
  modify fun c => { c with loops := c.loops + 1 }
  let a ← inner
  modify fun c => { c with loops := c.loops - 1 }
  return a

mutual

/-- A statement with its end. -/
def statement : Nat → Reading Statement
  | 0 => reject
  | fuel + 1 => do
    match ← peek with
    | .mark "\x7b" => block fuel
    | .mark ";" =>
      advance
      return .block []
    | .keyword "if" =>
      advance
      expect "("
      let condition ← expression false fuel
      expect ")"
      skipLines
      let yes ← statement fuel
      let before ← get
      skipLines
      if ← seesWord "else" then
        advance
        skipLines
        return .choice condition yes (← statement fuel)
      else
        set before
        return .choice condition yes (.block [])
    | .keyword "while" =>
      advance
      expect "("
      let condition ← expression false fuel
      expect ")"
      skipLines
      return .loop true (some condition) (.block []) (← looped (statement fuel))
    | .keyword "do" =>
      advance
      skipLines
      let body ← looped (statement fuel)
      skipLines
      if !(← seesWord "while") then reject
      advance
      expect "("
      let condition ← expression false fuel
      expect ")"
      statementEnd
      return .loop false (some condition) (.block []) body
    | .keyword "for" =>
      advance
      expect "("
      match (← get).tokens with
      | (.name key, _) :: (.keyword "in", _) :: (.name table, _) :: (.mark ")", _) :: _ =>
        modify fun c => { c with tokens := c.tokens.drop 3 }
        expect ")"
        skipLines
        return .each key table (← looped (statement fuel))
      | _ =>
        let begin_ ← if ← sees ";" then pure (.block []) else simple fuel
        expect ";"
        skipLines
        let condition ← if ← sees ";" then pure none else some <$> expression false fuel
        expect ";"
        skipLines
        let after ← if ← sees ")" then pure (.block []) else simple fuel
        expect ")"
        skipLines
        let body ← looped (statement fuel)
        return .block [begin_, .loop true condition after body]
    | _ =>
      let inner ← simple fuel
      statementEnd
      return inner

/-- A block. -/
def block : Nat → Reading Statement
  | 0 => reject
  | fuel + 1 => do
    expect "\x7b"
    let statements ← statements fuel
    expect "\x7d"
    return .block statements

/-- The statements up to a closing brace. -/
def statements : Nat → Reading (List Statement)
  | 0 => reject
  | fuel + 1 => do
    skipLines
    match ← peek with
    | .mark "\x7d" => return []
    | .finish => reject
    | _ =>
      let first ← statement fuel
      return first :: (← statements fuel)

end

/-- The names of a function's parameters. -/
def parameters (function : String) : Nat → Reading (List String)
  | 0 => reject
  | fuel + 1 => do
    skipLines
    let parameter ← name
    if parameter = function then complain "function parameter cannot be the function"
    if ← sees "," then
      advance
      let more ← parameters function fuel
      if more.contains parameter then complain s!"{parameter} is duplicated in argument list"
      return parameter :: more
    else return [parameter]

/-- A function. -/
def function (fuel : Nat) : Reading Function := do
  advance
  let own ←
    match ← peek with
    | .name own | .function own =>
      advance
      pure own
    | _ => reject
  expect "("
  let parameters ← if ← sees ")" then pure [] else parameters own fuel
  expect ")"
  skipLines
  modify fun c => { c with hasRecords := true, isFunction := true }
  let body ← block fuel
  modify fun c => { c with isFunction := false }
  return ⟨own, parameters, body⟩

/-- What is done for records when nothing is said. -/
def printing : Statement := .print [] .standard

/-- A rule. -/
def rule (fuel : Nat) : Reading Rule := do
  let isEdge := (← seesWord "BEGIN") || (← seesWord "END")
  modify fun c => { c with hasRecords := !isEdge }
  if isEdge then
    let occasion : Occasion := if ← seesWord "BEGIN" then .before else .after
    advance
    return ⟨occasion, ← block fuel⟩
  if ← sees "\x7b" then return ⟨.always, ← block fuel⟩
  let first ← expression false fuel
  let occasion : Occasion ←
    if ← sees "," then
      advance
      skipLines
      pure (.range first (← expression false fuel))
    else pure (.when first)
  if ← sees "\x7b" then return ⟨occasion, ← block fuel⟩
  match ← peek with
  | .lineEnd | .mark ";" => return ⟨occasion, printing⟩
  | _ => reject

/-- The rules and functions of a script. -/
def items (fuel : Nat) : Nat → Reading Script
  | 0 => reject
  | rounds + 1 => do
    skipLines
    match ← peek with
    | .finish => return ⟨[], []⟩
    | token =>
      let item : Rule ⊕ Function ←
        if token == .keyword "function" then Sum.inr <$> function fuel
        else Sum.inl <$> rule fuel
      if ← sees ";" then advance
      let more ← items fuel rounds
      match item with
      | .inl rule => return { more with rules := rule :: more.rules }
      | .inr function => return { more with functions := function :: more.functions }

/-- A script whose calls are looked at once it has been read. -/
def script (fuel : Nat) : Reading Script := do
  let script ← items fuel fuel
  for (name, count, line) in (← get).calls do
    match script.functions.find? (·.name = name) with
    | none => complain s!"function {name} never defined"
    | some function =>
      if function.parameters.length < count then
        throw [s!"line {line}: too many arguments in call to {name}"]
  return script

end Reading

/-- The script that a text writes, or the complaints about it. -/
def readScript (text : Bytes) : Except (List String) Script := do
  let tokens := tokensOf text
  let fuel := 40 * (tokens.length + 2)
  let (script, _) ← (Reading.script fuel).run ⟨tokens, 0, 0, 0, false, false, []⟩
  return script

end ConfigTemplate.Shell.Programs.Records
