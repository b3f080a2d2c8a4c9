import ConfigTemplate.Shell.Programs.Calendar
import ConfigTemplate.Shell.Programs.Places

/-!
# Conditions on files

The expressions by which files are looked for: tests, actions, and operators between them. A
conjunction binds tighter than an alternative, and both bind tighter than a comma.
-/

namespace ConfigTemplate.Shell.Programs.Finding

open Text (Bytes)
open Run (bytesOf textOf)

/-- A number with which another one is compared: it is to be less, the same, or greater. -/
structure Limit where
  order : Ordering
  number : Nat

/-- Whether a number is within a limit. -/
def Limit.holds (limit : Limit) (n : Nat) : Bool := compare n limit.number = limit.order

/-- How rights are compared. -/
inductive Measure where
  | exactly
  | all
  | any
  deriving DecidableEq

/-- A condition on a file. Actions are conditions too, most of which hold. -/
inductive Condition where
  | always
  | never
  | name (ignoresCase : Bool) (pattern : List Mark)
  | path (ignoresCase : Bool) (pattern : List Mark)
  /-- The text of a symbolic link. -/
  | link (ignoresCase : Bool) (pattern : List Mark)
  | kinds (letters : List Char)
  /-- An empty file or directory. -/
  | hollow
  | size (limit : Limit) (unit : Nat)
  | rights (measure : Measure) (mode : Nat)
  | newer (second : Int)
  | age (limit : Limit) (unit : Nat)
  | names (limit : Limit)
  | runnable
  | print (ending : UInt8)
  | printFormatted (format : Bytes)
  | delete
  | prune
  | quit
  | run (words : List Bytes)
  /-- Run a command with all files at the end; the number tells such commands apart. -/
  | runAll (number : Nat) (words : List Bytes)
  | not (a : Condition)
  | both (a b : Condition)
  | either (a b : Condition)
  | after (a b : Condition)

namespace Condition

/-- Whether there is an action in a condition, so that files are not simply printed. -/
def acts : Condition → Bool
  | print _ | printFormatted _ | delete | run _ | runAll .. => true
  | not a => a.acts
  | both a b | either a b | after a b => a.acts || b.acts
  | _ => false

/-- Whether files are removed. -/
def deletes : Condition → Bool
  | delete => true
  | not a => a.deletes
  | both a b | either a b | after a b => a.deletes || b.deletes
  | _ => false

end Condition

/-- What is read of an expression so far. -/
structure Query where
  rest : List Bytes
  mostDepth : Option Nat
  leastDepth : Nat
  childrenFirst : Bool
  /-- The number of commands for all files. -/
  commands : Nat

/-- Reading an expression, which may end with a complaint. -/
abbrev Reading := StateT Query (ExceptT String Run)

namespace Reading

/-- The next argument. -/
def peek : Reading (Option String) := do return (← get).rest.head?.map textOf

/-- Go past the next argument. -/
def advance : Reading Unit := modify fun q => { q with rest := q.rest.drop 1 }

/-- The argument of a test. -/
def argument (test : String) : Reading Bytes := do
  match (← get).rest with
  | value :: rest =>
    modify ({ · with rest := rest })
    return value
  | [] => throw s!"missing argument to \x60{test}'"

/-- A pattern with its quoted characters. -/
def marksOf : List Char → List Mark
  | '\\' :: c :: rest => (c, true) :: marksOf rest
  | c :: rest => (c, false) :: marksOf rest
  | [] => []

/-- A pattern, in small letters if case is ignored. -/
def patternOf (ignoresCase : Bool) (text : Bytes) : List Mark :=
  let cs := (textOf text).toList
  marksOf (if ignoresCase then cs.map Char.toLower else cs)

/-- The limit that a text writes. -/
def limit? (text : Bytes) : Option Limit :=
  match text with
  | 43 :: digits => (number? digits).map (⟨.gt, ·⟩)
  | 45 :: digits => (number? digits).map (⟨.lt, ·⟩)
  | digits => (number? digits).map (⟨.eq, ·⟩)

/-- The limit of a test. -/
def limit (test : String) : Reading Limit := do
  let text ← argument test
  match limit? text with
  | some found => return found
  | none => throw s!"invalid argument \x60{textOf text}' to \x60{test}'"

/-- A depth. -/
def depth (test : String) : Reading Nat := do
  let text ← argument test
  match number? text with
  | some n => return n
  | none =>
    throw (s!"Expected a positive decimal integer argument to {test}, " ++
      s!"but got {curly text}")

/-- The size that a text writes: a limit, and the unit in bytes. -/
def size : Reading Condition := do
  let text ← argument "-size"
  let units : List (UInt8 × Nat) :=
    [(99, 1), (119, 2), (98, 512), (107, 1024), (77, 1048576), (71, 1073741824)]
  let (digits, unit) : Bytes × Nat :=
    match text.getLast?.bind fun b => Entries.get? b units with
    | some unit => (text.dropLast, unit)
    | none => (text, 512)
  match limit? digits with
  | some limit => return .size limit unit
  | none =>
    let last := textOf (text.drop (text.length - 1))
    throw s!"invalid -size type \x60{last}'"

/-- The rights that a text writes. -/
def rights : Reading Condition := do
  let text ← argument "-perm"
  let (measure, body) : Measure × Bytes :=
    match text with
    | 45 :: body => (.all, body)
    | 47 :: body => (.any, body)
    | body => (.exactly, body)
  match Rights.changed? 0 false 0 (textOf body) with
  | some mode => return .rights measure mode
  | none => throw s!"invalid mode {curly text}"

/-- The kinds of files. -/
def kinds (test : String) : Reading Condition := do
  let text ← argument test
  let letters := (textOf text).toList.filter (· ≠ ',')
  if letters.isEmpty then throw s!"Arguments to {test} should contain at least one letter"
  match letters.find? fun c => !("bcdflps".toList.contains c) with
  | some c => throw s!"Unknown argument to {test}: {c}"
  | none => return .kinds letters

/-- When a file was changed last. -/
def newer : Reading Condition := do
  let name ← argument "-newer"
  let s ← (get : Run State)
  match look s name true with
  | .ok (place, _) => return .newer (Storage.stampOf s place)
  | .error fault => throw s!"{curly name}: {fault}"

/-- A moment after which a file was changed last. -/
def newerThan (test : String) : Reading Condition := do
  let text ← argument test
  let s ← (get : Run State)
  match Calendar.secondsOf? (Storage.now s) (textOf text) with
  | some second => return .newer second
  | none => throw s!"I cannot figure out how to interpret {curly text} as a date or time"

/-- A user or a group. -/
def owner (test what : String) : Reading Condition := do
  let text ← argument test
  match number? text with
  | some n => return if n = 0 then .always else .never
  | none =>
    if textOf text = "root" then return .always
    throw s!"{curly text} is not the name of {what}"

/-- The words of a command. -/
def command : Reading Condition := do
  let all := (← get).rest
  let isEnd (words : List Bytes) (word : Bytes) : Bool :=
    word = [59] || (word = [43] && words.getLast? = some (bytesOf "\x7b\x7d"))
  let count := (List.range all.length).find? fun n => isEnd (all.take n) (all.getD n [])
  match count with
  | none | some 0 => throw "missing argument to \x60-exec'"
  | some count =>
    let words := all.take count
    let commands := (← get).commands
    modify fun q => { q with rest := q.rest.drop (count + 1), commands := commands + 1 }
    if all.getD count [] = [43] then return .runAll commands words.dropLast
    else return .run words

/-- A test or an action by its name. -/
def predicate (test : String) : Reading Condition := do
  let pattern (ignoresCase : Bool) : Reading (List Mark) := do
    return patternOf ignoresCase (← argument test)
  match test with
  | "-name" => return .name false (← pattern false)
  | "-iname" => return .name true (← pattern true)
  | "-path" | "-wholename" => return .path false (← pattern false)
  | "-ipath" | "-iwholename" => return .path true (← pattern true)
  | "-lname" => return .link false (← pattern false)
  | "-ilname" => return .link true (← pattern true)
  | "-type" | "-xtype" => kinds test
  | "-empty" => return .hollow
  | "-size" => size
  | "-perm" => rights
  | "-newer" => newer
  | "-newermt" => newerThan test
  | "-mtime" | "-ctime" | "-atime" => return .age (← limit test) 86400
  | "-mmin" | "-cmin" | "-amin" => return .age (← limit test) 60
  | "-links" => return .names (← limit test)
  | "-user" | "-uid" => owner test "a known user"
  | "-group" | "-gid" => owner test "an existing group"
  | "-executable" => return .runnable
  | "-readable" | "-writable" | "-true" => return .always
  | "-false" | "-nouser" | "-nogroup" => return .never
  | "-print" => return .print 10
  | "-print0" => return .print 0
  | "-printf" => return .printFormatted (← argument test)
  | "-delete" =>
    modify ({ · with childrenFirst := true })
    return .delete
  | "-prune" => return .prune
  | "-quit" => return .quit
  | "-exec" | "-execdir" => command
  | "-depth" | "-d" =>
    modify ({ · with childrenFirst := true })
    return .always
  | "-maxdepth" =>
    let n ← depth test
    modify ({ · with mostDepth := some n })
    return .always
  | "-mindepth" =>
    let n ← depth test
    modify ({ · with leastDepth := n })
    return .always
  | "-mount" | "-xdev" | "-daystart" | "-follow" | "-noleaf" | "-warn" | "-nowarn" =>
    return .always
  | test =>
    if test.startsWith "-" then throw s!"unknown predicate \x60{test}'"
    else throw s!"paths must precede expression: \x60{test}'"

/-- Operators between two conditions. -/
def binary : List String := ["-o", "-or", "-a", "-and", ","]

mutual

/-- Conditions between commas. -/
def listed : Nat → Reading Condition
  | 0 => return .always
  | fuel + 1 => do
    let a ← alternatives fuel
    if (← peek) = some "," then
      advance
      demand ","
      return .after a (← listed fuel)
    else return a

/-- Alternatives. -/
def alternatives : Nat → Reading Condition
  | 0 => return .always
  | fuel + 1 => do
    let a ← conjunction fuel
    match ← peek with
    | some "-o" | some "-or" =>
      advance
      demand "-o"
      return .either a (← alternatives fuel)
    | _ => return a

/-- Conditions that hold together. -/
def conjunction : Nat → Reading Condition
  | 0 => return .always
  | fuel + 1 => do
    let a ← single fuel
    match ← peek with
    | none | some "-o" | some "-or" | some "," | some ")" => return a
    | some "-a" | some "-and" =>
      advance
      demand "-a"
      return .both a (← conjunction fuel)
    | _ => return .both a (← conjunction fuel)

/-- A single condition. -/
def single : Nat → Reading Condition
  | 0 => return .always
  | fuel + 1 => do
    match ← peek with
    | none => return .always
    | some "!" | some "-not" =>
      let sign := (← peek).getD "!"
      advance
      demand sign
      return .not (← single fuel)
    | some "(" =>
      advance
      match ← peek with
      | none =>
        throw ("invalid expression; expected to find a ')' but didn't see one. " ++
          "Perhaps you need an extra predicate after '('")
      | some ")" => throw "invalid expression; empty parentheses are not allowed."
      | _ => pure ()
      let a ← listed fuel
      if (← peek) = some ")" then
        advance
        return a
      else
        throw ("invalid expression; I was expecting to find a ')' somewhere " ++
          "but did not see one.")
    | some ")" => throw "invalid expression; you have too many ')'"
    | some test =>
      if binary.contains test then
        throw (s!"invalid expression; you have used a binary operator '{test}' " ++
          "with nothing before it.")
      advance
      predicate test

/-- Demand that something follows an operator. -/
def demand (sign : String) : Reading Unit := do
  if (← peek).isNone then throw s!"expected an expression after '{sign}'"

end

/-- The condition that all arguments write. -/
def whole : Reading Condition := do
  let a ← listed (4 * (← get).rest.length + 8)
  match ← peek with
  | none => return a
  | some ")" => throw "invalid expression; you have too many ')'"
  | some extra => throw s!"paths must precede expression: \x60{extra}'"

end Reading

end ConfigTemplate.Shell.Programs.Finding
