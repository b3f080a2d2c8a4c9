import ConfigTemplate.Shell.Regular.Reader
import ConfigTemplate.Text.Encoding

/-!
# Scripts for records

What is done with records: rules, each of which tells for which records it is and what is done with
them, and functions that the rules use.
-/

namespace ConfigTemplate.Shell.Programs.Records

open Text (Bytes)

/-- An operation on two numbers. -/
inductive Operation where
  | add
  | subtract
  | multiply
  | divide
  | remainder
  | power
  deriving DecidableEq, Repr

/-- A comparison. -/
inductive Comparison where
  | less
  | atMost
  | equal
  | different
  | atLeast
  | greater
  deriving DecidableEq, Repr

mutual

/-- An expression. -/
inductive Expression where
  | number (x : Float)
  | text (content : Bytes)
  /-- Whether the record matches. -/
  | pattern (r : Regular)
  | target (place : Target)
  | group (members : List Expression)
  | assign (operation : Option Operation) (place : Target) (value : Expression)
  /-- A change by an amount; the value is the one from before it, or the one after it. -/
  | step (isBefore : Bool) (amount : Float) (place : Target)
  | choice (condition yes no : Expression)
  | either (a b : Expression)
  | both (a b : Expression)
  | not (a : Expression)
  | negative (a : Expression)
  | positive (a : Expression)
  | compute (operation : Operation) (a b : Expression)
  | compare (comparison : Comparison) (a b : Expression)
  | join (a b : Expression)
  | matches (negated : Bool) (a pattern : Expression)
  /-- Whether a table has a key. -/
  | contains (keys : List Expression) (table : String)
  | call (name : String) (arguments : List Expression)
  | builtin (name : String) (arguments : List Expression)
  /-- Read a record, or a text into a place. -/
  | read (source : Source) (place : Option Target)

/-- What can be given a value. -/
inductive Target where
  | variable (name : String)
  | item (table : String) (keys : List Expression)
  | field (number : Expression)

/-- What can be read. -/
inductive Source where
  | records
  | file (name : Expression)
  | command (text : Expression)

end

/-- Where output goes. -/
inductive Output where
  | standard
  | file (name : Expression)
  /-- To the end of a file. -/
  | fileEnd (name : Expression)
  | command (text : Expression)

/-- A statement. -/
inductive Statement where
  | expression (e : Expression)
  | print (values : List Expression) (output : Output)
  | printFormatted (values : List Expression) (output : Output)
  | block (statements : List Statement)
  | choice (condition : Expression) (yes no : Statement)
  /-- A loop as long as a condition holds, which is asked first or only after the first round;
  `after` is done after each round. -/
  | loop (asksFirst : Bool) (condition : Option Expression) (after body : Statement)
  | each (name table : String) (body : Statement)
  | next
  | nextFile
  | exit (status : Option Expression)
  | back (value : Option Expression)
  | leave
  | again
  | erase (table : String) (keys : List Expression)

/-- The records for which a rule is. -/
inductive Occasion where
  /-- Before the first record, and after the last one. -/
  | before
  | after
  | always
  | when (condition : Expression)
  | range (first last : Expression)

/-- A rule: when something is done, and what; the record is printed if nothing is said. -/
structure Rule where
  occasion : Occasion
  body : Statement

/-- A function. -/
structure Function where
  name : String
  parameters : List String
  body : Statement

/-- A script. -/
structure Script where
  rules : List Rule
  functions : List Function

end ConfigTemplate.Shell.Programs.Records
