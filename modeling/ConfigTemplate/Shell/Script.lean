/-!
# Scripts

The language of shell commands. Words are made of pieces, some of which stand for text that is
found when the command is run: parameters, the output of other commands, and sums.
-/

namespace ConfigTemplate.Shell

/-- How the value of a parameter is changed. -/
inductive Change where
  | plain
  | length
  /-- Another word in its place. -/
  | default
  /-- Another word in its place, which is also assigned. -/
  | assign
  /-- Stop with another word as the complaint. -/
  | require
  /-- Another word where there is a value, and nothing otherwise. -/
  | alternate
  /-- Without what a pattern matches at the front. -/
  | withoutFront (longest : Bool)
  /-- Without what a pattern matches at the end. -/
  | withoutEnd (longest : Bool)
  /-- No change that the language knows. -/
  | unknown
  deriving DecidableEq, Repr

/-- What a redirection does with a descriptor. -/
inductive Direction where
  | read
  | write
  /-- Write even where an option protects files that are there. -/
  | overwrite
  | append
  | readWrite
  | duplicate
  deriving DecidableEq, Repr

mutual

/-- A piece of a word. -/
inductive Piece where
  | text (chars : List Char) (quoted : Bool)
  /-- The value of a parameter. With `orEmpty` an empty value counts as none. -/
  | parameter (name : String) (change : Change) (orEmpty : Bool) (word : List Piece)
    (quoted : Bool)
  | output (body : List Command) (quoted : Bool)
  | sum (expression : List Piece) (quoted : Bool)

/-- A redirection of a descriptor. -/
inductive Redirection where
  | to (descriptor : Nat) (direction : Direction) (target : List Piece)
  /-- Text to read, written after the command. -/
  | hereText (descriptor : Nat) (content : List Piece)

/-- A command. -/
inductive Command where
  | simple (line : Nat) (assignments : List (String × List Piece)) (words : List (List Piece))
    (redirections : List Redirection)
  | pipe (negated : Bool) (stages : List Command)
  | and (first second : Command)
  | or (first second : Command)
  | sequence (commands : List Command)
  | subshell (body : Command)
  | redirected (body : Command) (redirections : List Redirection)
  | branch (condition body otherwise : Command)
  | loop (negated : Bool) (condition body : Command)
  | each (name : String) (words : Option (List (List Piece))) (body : Command)
  | select (word : List Piece) (cases : List (List (List Piece) × Command))
  | define (name : String) (body : Command)
  /-- A command that the shell does not wait for. -/
  | background (line : Nat) (body : Command)

end

/-- A word by its pieces. -/
abbrev Word := List Piece

instance : Inhabited Command := ⟨.sequence []⟩

/-- The commands that are part of the language more than others: no function has their names, and a
mistake in one of them ends a shell. -/
def specialNames : List String :=
  [":", ".", "eval", "exec", "exit", "return", "break", "continue", "shift", "export", "readonly",
    "unset", "set", "trap", "times"]

/-- A text that is no script: the wording of what is wrong and the line. -/
structure Complaint where
  line : Nat
  text : String
  deriving DecidableEq, Repr

end ConfigTemplate.Shell
