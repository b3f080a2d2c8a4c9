import ConfigTemplate.Shell.Programs.Basic
import ConfigTemplate.Shell.Regular.Reader

/-!
# Editing scripts

What an editor of lines is told to do: steps for the lines of some addresses, in the order in which
they are taken, with jumps between them.
-/

namespace ConfigTemplate.Shell.Programs.Editing

open Text (Bytes)

/-- An expression and whether it tells capital letters from small ones; none for the one that was
used last. -/
abbrev Pattern := Option (Regular × Bool)

/-- The lines that a step is for, or the end of them. -/
inductive Address where
  | line (number : Nat)
  /-- Lines from one on, by steps. -/
  | every (first step : Nat)
  | last
  | matching (pattern : Pattern)
  /-- So many lines after the first one. -/
  | further (count : Nat)
  /-- Up to the next line whose number is a multiple. -/
  | multiple (step : Nat)

/-- How letters are changed in a replacement. -/
inductive Casing where
  | upper
  | lower
  | ended
  deriving DecidableEq

/-- A part of a replacement. -/
inductive Part where
  | text (cs : List Char)
  /-- What a group matched; the whole match has the number zero. -/
  | group (number : Nat)
  | all (casing : Casing)
  | next (casing : Casing)

/-- A replacement of matches. -/
structure Substitution where
  pattern : Pattern
  parts : List Part
  /-- The first match that is replaced. -/
  first : Nat
  /-- Whether those after it are replaced too. -/
  global : Bool
  prints : Bool
  file : Option Bytes

/-- What a step does. -/
inductive Action where
  | nothing
  /-- Go on at a step unless this one is taken. -/
  | block (stop : Nat)
  | print
  | printFirst
  | delete
  | deleteFirst
  | nextLine
  | joinNext
  | hold
  | holdMore
  | fetch
  | fetchMore
  | exchange
  | clear
  | number
  | fileName
  | display (width : Nat)
  | quit (status : Nat) (prints : Bool)
  | append (text : List Char)
  | insert (text : List Char)
  | change (text : List Char)
  | readFile (name : Bytes)
  | readLine (name : Bytes)
  | writeFile (name : Bytes)
  | writeFirst (name : Bytes)
  /-- Go on at a step, perhaps only if something was replaced or if nothing was. -/
  | jump (target : Nat) (condition : Option Bool)
  | mapChars (pairs : List (Char × Char))
  | substitute (s : Substitution)

/-- A step of a script. -/
structure Step where
  first : Option Address
  second : Option Address
  negated : Bool
  action : Action

/-- A step that jumps to a label. -/
structure Jump where
  step : Nat
  label : String
  condition : Option Bool

/-- What has been read of a script. -/
structure Draft where
  steps : Array Step
  /-- The blocks that are open. -/
  blocks : List Nat
  labels : List (String × Nat)
  jumps : List Jump

/-- A draft without steps. -/
def Draft.empty : Draft := ⟨#[], [], [], []⟩

/-- What is wrong with a script, and how many characters are left after it. -/
structure Mistake where
  text : String
  left : Nat

/-- A mistake. -/
def wrong {α : Type} (text : String) (rest : List Char) : Except Mistake α :=
  .error ⟨text, rest.length⟩

/-- Whether a character is a blank. -/
def isBlank (c : Char) : Bool := c = ' ' || c = '\t'

/-- Whether a character is a blank or an end of a line. -/
def isGap (c : Char) : Bool := isBlank c || c = '\n'

/-- The number at the front of a text. -/
def numberAt (cs : List Char) : Option Nat × List Char :=
  let digits := cs.takeWhile Char.isDigit
  let n := digits.foldl (fun n c => n * 10 + (c.toNat - 48)) 0
  (if digits.isEmpty then none else some n, cs.drop digits.length)

/-- Characters that letters after backslashes stand for. -/
def letterCharacters : List (Char × Char) :=
  [('n', '\n'), ('t', '\t'), ('f', '\x0c'), ('v', '\x0b'), ('a', '\x07'), ('r', '\r')]

/-- The character of two hexadecimal digits. -/
def hexCharacter? : List Char → Option (Char × List Char)
  | rest =>
    let value (c : Char) : Option Nat :=
      if c.isDigit then some (c.toNat - 48)
      else if 'a' ≤ c && c ≤ 'f' then some (c.toNat - 87)
      else if 'A' ≤ c && c ≤ 'F' then some (c.toNat - 55)
      else none
    let digits := (rest.take 2).filterMap value
    let isHex := rest.head?.any fun c => (value c).isSome
    let count := if (rest.drop 1).head?.any fun c => (value c).isSome then 2 else 1
    if isHex then
      some (Char.ofNat ((digits.take count).foldl (fun n d => n * 16 + d) 0), rest.drop count)
    else none

/-- The text up to a delimiter, which belongs to the text itself where it follows a backslash. An
end of a line has to follow one too. -/
def delimited (delimiter : Char) (isExpression : Bool) : List Char →
    Option (List Char × List Char)
  | [] | '\n' :: _ => none
  | '\\' :: c :: rest =>
    let text : List Char :=
      if c = '\n' || (isExpression && c = 'n') then ['\n']
      else if c = delimiter && (isExpression || c ≠ '&') then [c]
      else ['\\', c]
    (delimited delimiter isExpression rest).map fun (more, after) => (text ++ more, after)
  | c :: rest =>
    if c = delimiter then some ([], rest)
    else (delimited delimiter isExpression rest).map fun (more, after) => (c :: more, after)

/-- An expression with the characters that letters after backslashes stand for. -/
def withLetters : List Char → List Char
  | '\\' :: 'x' :: a :: b :: rest =>
    match hexCharacter? [a, b] with
    | some (c, []) =>
      if "*.[]^$\\/+?()\x7b\x7d|".toList.contains c then '\\' :: c :: withLetters rest
      else c :: withLetters rest
    | _ => '\\' :: 'x' :: a :: b :: withLetters rest
  | '\\' :: c :: rest =>
    match letterCharacters.find? (·.1 = c) with
    | some (_, d) => d :: withLetters rest
    | none => '\\' :: c :: withLetters rest
  | c :: rest => c :: withLetters rest
  | [] => []

/-- The expression that a text writes. -/
def patternOf (extended ignoresCase byLines : Bool) (text : List Char) (rest : List Char) :
    Except Mistake Pattern :=
  if text.isEmpty then .ok none
  else
    match Regular.read ⟨extended, false, false, byLines⟩ (withLetters text) with
    | .ok r => .ok (some (r, ignoresCase))
    | .error flaw => wrong flaw.message rest

/-- The parts of a replacement. -/
def partsOf : Nat → List Char → List Char → List Part
  | 0, _, _ => []
  | fuel + 1, plain, cs =>
    let flush (more : List Part) : List Part :=
      if plain.isEmpty then more else .text plain.reverse :: more
    match cs with
    | [] => flush []
    | '&' :: rest => flush (.group 0 :: partsOf fuel [] rest)
    | '\\' :: c :: rest =>
      if c.isDigit then flush (.group (c.toNat - 48) :: partsOf fuel [] rest)
      else
        match c with
        | 'U' => flush (.all .upper :: partsOf fuel [] rest)
        | 'L' => flush (.all .lower :: partsOf fuel [] rest)
        | 'E' => flush (.all .ended :: partsOf fuel [] rest)
        | 'u' => flush (.next .upper :: partsOf fuel [] rest)
        | 'l' => flush (.next .lower :: partsOf fuel [] rest)
        | c =>
          match letterCharacters.find? (·.1 = c) with
          | some (_, d) => partsOf fuel (d :: plain) rest
          | none => partsOf fuel (c :: plain) rest
    | c :: rest => partsOf fuel (c :: plain) rest

/-- The greatest number of a group in a replacement. -/
def greatestGroup (parts : List Part) : Nat :=
  parts.foldl (fun n part =>
    match part with
    | .group m => max n m
    | _ => n) 0

/-- The text that is added, inserted or put in place of lines: up to an end of a line without a
backslash before it. -/
def textLines : List Char → List Char × List Char
  | [] => ([], [])
  | ['\\'] => ([], [])
  | '\\' :: c :: rest =>
    let (text, after) := textLines rest
    match letterCharacters.find? (·.1 = c) with
    | some (_, d) => (d :: text, after)
    | none => (c :: text, after)
  | '\n' :: rest => ([], rest)
  | c :: rest =>
    let (text, after) := textLines rest
    (c :: text, after)

/-- The text of a step that has one. -/
def textOf? (rest : List Char) : Option (List Char × List Char) :=
  let body := rest.dropWhile isBlank
  match body with
  | [] => none
  | '\\' :: more =>
    let after := more.dropWhile isBlank
    match after with
    | '\n' :: text =>
      let (text, rest) := textLines text
      some (text ++ ['\n'], rest)
    | [] => some ([], [])
    | _ =>
      let (text, rest) := textLines more
      some (text ++ ['\n'], rest)
  | _ =>
    let (text, rest) := textLines body
    some (text ++ ['\n'], rest)

end ConfigTemplate.Shell.Programs.Editing
