import ConfigTemplate.Shell.Programs.Attributes
import ConfigTemplate.Shell.Programs.Finding.Condition
import ConfigTemplate.Shell.Programs.Starting

/-!
# Finding files

The program that goes through directories and finds the files of which a condition holds.
-/

namespace ConfigTemplate.Shell.Programs.Finding

open Text (Bytes)
open Run (bytesOf textOf)

/-- A file that is looked at: its name, the name at which one has begun, how deep it lies below
that, its place and its kind. -/
structure Candidate where
  name : Bytes
  start : Bytes
  depth : Nat
  place : Place
  kind : Kind

/-- What has been found out on the way. -/
structure Trip where
  status : Nat
  /-- Whether one does not go on, and whether one does not go into the present directory. -/
  isOver : Bool
  isPruned : Bool
  /-- The files for commands for all files. -/
  gathered : List (Nat × List Bytes × List Bytes)

/-- Work on the way. -/
abbrev Going := StateT Trip Run

/-- The letter of a kind. -/
def letterOf : Kind → Char
  | .file _ => 'f'
  | .directory => 'd'
  | .link _ => 'l'
  | .device => 'c'

/-- The name of a candidate below the one at which one has begun. -/
def Candidate.inner (c : Candidate) : Bytes :=
  let rest := c.name.drop c.start.length
  if rest.head? = some 47 then rest.drop 1 else rest

/-- The directory in a name. -/
def frontOf (name : Bytes) : Bytes :=
  if name.contains 47 then
    (name.reverse.dropWhile (· ≠ 47)).drop 1 |>.reverse
  else [46]

/-- What a letter of a format says of a candidate. -/
def part? (s : State) (c : Candidate) (letter : Char) : Option Bytes :=
  let stat (letter : Char) : Option Bytes :=
    (statPart? s c.name c.place c.kind letter).map bytesOf
  match letter with
  | 'p' => some c.name
  | 'f' => some (baseOf c.name)
  | 'h' => some (frontOf c.name)
  | 'P' => some c.inner
  | 'H' => some c.start
  | 'd' => some (bytesOf (toString c.depth))
  | 'y' | 'Y' => some (bytesOf (String.singleton (letterOf c.kind)))
  | 'l' =>
    match c.kind with
    | .link text => some (bytesOf text)
    | _ => some []
  | 's' => stat 's'
  | 'm' => stat 'a'
  | 'M' => stat 'A'
  | 'u' => stat 'U'
  | 'U' => stat 'u'
  | 'g' => stat 'G'
  | 'G' => stat 'g'
  | 'i' | 'b' => stat letter
  | 'n' => stat 'h'
  | 't' => some (bytesOf (Calendar.shownBy (Storage.stampOf s c.place) "%c"))
  | '%' => some [37]
  | _ => none

/-- The text of a format for a candidate. -/
def formatted (s : State) (c : Candidate) : Nat → List Char → Bytes
  | 0, _ => []
  | _ + 1, [] => []
  | fuel + 1, '\\' :: rest =>
    let (text, rest) := Format.escape (bytesOf (String.ofList rest))
    text ++ formatted s c fuel (textOf rest).toList
  | fuel + 1, '%' :: rest =>
    let flags := rest.takeWhile fun d => d.isDigit || d = '-'
    let width := Calendar.numberOf (flags.filter Char.isDigit)
    match rest.drop flags.length with
    | 'T' :: letter :: rest =>
      bytesOf (Calendar.shownBy (Storage.stampOf s c.place) s!"%{letter}") ++
        formatted s c fuel rest
    | letter :: after =>
      let text :=
        match part? s c letter with
        | some text => if flags.contains '-' then padRight width text else padLeft width text
        | none => bytesOf (String.ofList ['%', letter])
      text ++ formatted s c fuel after
    | [] => [37]
  | fuel + 1, d :: rest => bytesOf (String.singleton d) ++ formatted s c fuel rest

/-- A command with a name put into its words. -/
def filled (name : Bytes) (words : List Bytes) : List Bytes :=
  words.map fun word => Arguments.replaced (bytesOf "\x7b\x7d") name (word.length + 1) word

/-- Run a command; whether it has succeeded comes back. -/
def succeeds (launch : Launch) (words : List Bytes) : Run Bool := do
  match ← launch words with
  | .ok ending => return ending.status = 0
  | .error fault =>
    Run.complainPlain s!"find: {curly (words.headD [])}: {fault.message}"
    return false

/-- Remove what is found. -/
def removed (c : Candidate) : Going Bool := do
  let s ← (get : Run State)
  if c.name = [46] then return true
  match c.kind with
  | .directory =>
    if isEmptyDirectory s c.place then
      (Storage.remove c.place : Run Unit)
      return true
    else
      (Run.complainPlain s!"find: cannot delete {curly c.name}: Directory not empty" : Run Unit)
      modify ({ · with status := 1 })
      return false
  | _ =>
    (Storage.remove c.place : Run Unit)
    return true

/-- The characters of a text, in small letters if case is ignored. -/
def compared (ignoresCase : Bool) (text : Bytes) : List Char :=
  let cs := (textOf text).toList
  if ignoresCase then cs.map Char.toLower else cs

/-- Whether a condition holds of a candidate. -/
def holds (launch : Launch) (c : Candidate) : Condition → Going Bool
  | .always => return true
  | .never => return false
  | .name ignoresCase pattern => return isMatch pattern (compared ignoresCase (baseOf c.name))
  | .path ignoresCase pattern => return isMatch pattern (compared ignoresCase c.name)
  | .link ignoresCase pattern =>
    match c.kind with
    | .link text => return isMatch pattern (compared ignoresCase (bytesOf text))
    | _ => return false
  | .kinds letters => return letters.contains (letterOf c.kind)
  | .hollow => do
    let s ← (get : Run State)
    match c.kind with
    | .file content => return content.isEmpty
    | .directory => return isEmptyDirectory s c.place
    | _ => return false
  | .size limit unit => return limit.holds ((c.kind.size + unit - 1) / unit)
  | .rights measure mode => do
    let own := Storage.modeOf (← (get : Run State)) c.place
    match measure with
    | .exactly => return own = mode
    | .all => return own &&& mode = mode
    | .any => return mode = 0 || own &&& mode ≠ 0
  | .newer second => return second < Storage.stampOf (← (get : Run State)) c.place
  | .age limit unit => do
    let s ← (get : Run State)
    return limit.holds ((Storage.now s - Storage.stampOf s c.place) / unit).toNat
  | .names limit => return limit.holds (nameCount (← (get : Run State)) c.place c.kind)
  | .runnable => return Storage.isExecutable (← (get : Run State)) c.place
  | .print ending => do
    (Run.write 1 (c.name ++ [ending]) : Run Unit)
    return true
  | .printFormatted format => do
    let s ← (get : Run State)
    (Run.write 1 (formatted s c (format.length + 1) (textOf format).toList) : Run Unit)
    return true
  | .delete => removed c
  | .prune => do
    modify ({ · with isPruned := true })
    return true
  | .quit => do
    modify ({ · with isOver := true })
    return false
  | .run words => (succeeds launch (filled c.name words) : Run Bool)
  | .runAll number words => do
    modify fun trip =>
      let (_, names) := (Entries.get? number trip.gathered).getD (words, [])
      { trip with gathered := Entries.put number (words, names ++ [c.name]) trip.gathered }
    return true
  | .not a => do return !(← holds launch c a)
  | .both a b => do if ← holds launch c a then holds launch c b else return false
  | .either a b => do if ← holds launch c a then return true else holds launch c b
  | .after a b => do
    let _ ← holds launch c a
    holds launch c b

/-- Look at a candidate if it lies deep enough. -/
def visit (launch : Launch) (q : Query) (condition : Condition) (c : Candidate) : Going Unit := do
  if q.leastDepth ≤ c.depth && !(← get).isOver then
    let _ ← holds launch c condition

/-- Go through a candidate and what lies below it. -/
def walk (launch : Launch) (q : Query) (follows : Bool) (condition : Condition) :
    Nat → Candidate → Going Unit
  | 0, _ => return
  | fuel + 1, c => do
    modify ({ · with isPruned := false })
    if !q.childrenFirst then visit launch q condition c
    let isPruned := (← get).isPruned && !q.childrenFirst
    let goesOn := !isPruned && q.mostDepth.all (c.depth < ·)
    match c.kind, goesOn with
    | .directory, true =>
      if !Storage.isTaken (← (get : Run State)) c.place then
        (Run.complainPlain s!"find: {curly c.name}: {Storage.wording .missing}" : Run Unit)
        modify ({ · with status := 1 })
      for child in childrenOf (← (get : Run State)) c.place do
        if !(← get).isOver then
          let name := below c.name child
          match look (← (get : Run State)) name follows with
          | .ok (place, kind) =>
            walk launch q follows condition fuel ⟨name, c.start, c.depth + 1, place, kind⟩
          | .error _ =>
            match look (← (get : Run State)) name false with
            | .ok (place, kind) =>
              walk launch q follows condition fuel ⟨name, c.start, c.depth + 1, place, kind⟩
            | .error _ => pure ()
    | _, _ => pure ()
    if q.childrenFirst then visit launch q condition c

/-- Go through all of some names. -/
def walkAll (launch : Launch) (q : Query) (follows followsFirst : Bool) (condition : Condition)
    (names : List Bytes) : Going Unit := do
  for name in names do
    if !(← get).isOver then
      match look (← (get : Run State)) name followsFirst with
      | .ok (place, kind) => walk launch q follows condition deepest ⟨name, name, 0, place, kind⟩
      | .error _ =>
        match look (← (get : Run State)) name false with
        | .ok (place, kind) => walk launch q follows condition deepest ⟨name, name, 0, place, kind⟩
        | .error fault =>
          (Run.complainPlain s!"find: {curly name}: {fault}" : Run Unit)
          modify ({ · with status := 1 })
  for (_, words, files) in (← get).gathered do
    if !(← (succeeds launch (words ++ files) : Run Bool)) then modify ({ · with status := 1 })

/-- Find files. -/
def program (launch : Launch) : Program := fun arguments => do
  let isMode (word : Bytes) : Bool := ["-P", "-H", "-L"].contains (textOf word)
  let modes := arguments.takeWhile isMode
  let rest := arguments.drop modes.length
  let rest := if rest.head? = some [45, 45] then rest.drop 1 else rest
  let isPath (word : Bytes) : Bool :=
    word.head? ≠ some 45 && ¬ [[33], [40], [44]].contains word
  let names := rest.takeWhile isPath
  let query : Query := ⟨rest.drop names.length, none, 0, false, 0⟩
  match ← ExceptT.run (StateT.run Reading.whole query) with
  | .error complaint => fail 1 s!"find: {complaint}"
  | .ok (condition, query) =>
    let condition : Condition :=
      if condition.acts then condition else .both condition (.print 10)
    let follows := modes.getLast? = some (bytesOf "-L")
    let followsFirst := follows || modes.getLast? = some (bytesOf "-H")
    let names := if names.isEmpty then [[46]] else names
    let (_, trip) ←
      StateT.run (walkAll launch query follows followsFirst condition names) ⟨0, false, false, []⟩
    return trip.status

end ConfigTemplate.Shell.Programs.Finding
