import ConfigTemplate.Shell.Programs.Records.Work
import ConfigTemplate.Shell.Programs.Starting

/-!
# Running scripts for records

The program that runs a script for the records of files: first what is to be done before them, then
the rules for each record, then what is to be done after them.
-/

namespace ConfigTemplate.Shell.Programs.Records

open Text (Bytes)
open Run (bytesOf textOf)

/-- How much may be done for one rule. -/
def mostSteps : Nat := 10000000

namespace Work

/-- Do the rules of an occasion that needs no record. -/
def edge (launch : Launch) (isWanted : Occasion → Bool) : Work Unit := do
  for rule in (← get).script.rules do
    if isWanted rule.occasion then statement launch mostSteps rule.body

/-- Whether a rule is for the present record; its number tells the ranges apart. -/
def applies (launch : Launch) (number : Nat) (occasion : Occasion) : Work Bool := do
  match occasion with
  | .before | .after => return false
  | .always => return true
  | .when condition => return (← value launch mostSteps condition).isTrue
  | .range first last =>
    let hasBegun := (← get).begun.contains number
    let begins ← if hasBegun then pure true
      else do pure (← value launch mostSteps first).isTrue
    if !begins then return false
    let ends := (← value launch mostSteps last).isTrue
    change fun m =>
      let others := m.begun.filter (· ≠ number)
      { m with begun := if ends then others else number :: others }
    return true

/-- Do the rules for the present record. -/
def rules (launch : Launch) : Work Unit := do
  for (rule, number) in (← get).script.rules.zipIdx do
    if ← applies launch number rule.occasion then statement launch mostSteps rule.body

/-- Do the rules for all records, as many as fuel allows. -/
def records (launch : Launch) : Nat → Work Unit
  | 0 => return
  | fuel + 1 => do
    match ← nextRecord? with
    | none => return
    | some record =>
      putRecord record
      match ← attempt (rules launch) with
      | .ok () | .error .next => records launch fuel
      | .error .nextFile =>
        change fun m => { m with input := m.input.map fun _ => [] }
        records launch fuel
      | .error leap => throw leap

/-- Do what is to be done in the whole. -/
def all (launch : Launch) : Work Unit := do
  let occasions := (← get).script.rules.map (·.occasion)
  let isBefore : Occasion → Bool
    | .before => true
    | _ => false
  let isAfter : Occasion → Bool
    | .after => true
    | _ => false
  let body : Work Unit := do
    edge launch isBefore
    if occasions.any fun occasion => !isBefore occasion then records launch mostSteps
  match ← attempt body with
  | .ok () | .error .exit => edge launch isAfter
  | .error leap => throw leap

end Work

/-- The variables that a script begins with. -/
def ownVariables : List (String × Slot) :=
  let text (name value : String) : String × Slot := (name, .value (.text (bytesOf value)))
  let number (name : String) (x : Float) : String × Slot := (name, .value (.number x))
  [number "NF" 0.0, number "NR" 0.0, number "FNR" 0.0, text "FS" " ", text "OFS" " ",
    text "RS" "\n", text "ORS" "\n", text "CONVFMT" "%.6g", text "OFMT" "%.6g",
    text "SUBSEP" "\x1c", text "FILENAME" "", number "RSTART" 0.0, number "RLENGTH" (-1.0)]

/-- The table of some values. -/
def tableOf (entries : List (Key × Value)) : Table :=
  entries.foldl (fun table (key, v) => table.put key v) .empty

/-- The memory of a script that begins: the words by which it was started, and the variables that
it sees. -/
def Memory.start (name : String) (script : Script) (words : List Bytes)
    (seen : List (String × Bytes)) : Memory where
  name := name
  script := script
  globals := ownVariables ++
    [("ARGC", .value (.ofNat words.length)), ("ARGV", .table 0), ("ENVIRON", .table 1)]
  locals := []
  tables :=
    #[tableOf (words.zipIdx.map fun (word, n) => (.whole n, ofRead word)),
      tableOf (seen.map fun (name, value) => (.text (bytesOf name), ofRead value))]
  record := []
  fields := #[]
  begun := []
  input := none
  argument := 1
  sawFile := false
  sources := []
  outputs := []
  pending := []
  passed := 0
  status := 0
  seed := 0.0
  random := 4242

/-- What options say: what divides fields, assignments, and the files of the script. -/
structure Options where
  divider : Option Bytes
  assignments : List (String × Value)
  files : List Bytes

/-- The options among arguments, and the arguments after them. -/
def readOptions (name : String) : Nat → List Bytes → Options → Run (Options × List Bytes)
  | 0, arguments, options => return (options, arguments)
  | fuel + 1, arguments, options => do
    match arguments with
    | [45, 45] :: rest => return (options, rest)
    | (45 :: letter :: body) :: rest =>
      if ¬ [70, 118, 102].contains letter then
        fail 2 s!"{name}: not an option: -{textOf (letter :: body)}"
      let (value, rest) : Bytes × List Bytes ←
        match body, rest with
        | [], [] => fail 2 s!"{name}: option -{textOf [letter]} lacks argument"
        | [], value :: rest => pure (value, rest)
        | body, rest => pure (body, rest)
      if letter = 70 then
        let cs := charsOf value
        let divider := bytesIn (unescaped (cs.length + 1) cs)
        readOptions name fuel rest { options with divider := some divider }
      else if letter = 102 then
        readOptions name fuel rest { options with files := options.files ++ [value] }
      else
        match Work.assignment? value with
        | some assignment =>
          let assignments := options.assignments ++ [assignment]
          readOptions name fuel rest { options with assignments := assignments }
        | none => fail 2 s!"{name}: improper assignment: -v {textOf value}"
    | arguments => return (options, arguments)

/-- The text of the script, and the arguments after it. -/
def scriptText (name : String) (options : Options) (arguments : List Bytes) :
    Run (Bytes × List Bytes) := do
  if options.files.isEmpty then
    match arguments with
    | [] => fail 2 "Usage: mawk [Options] [Program] [file ...]"
    | text :: rest => return (text, rest)
  else
    let texts ← options.files.mapM fun file => do
      match ← contentOf file with
      | .ok content => pure content
      | .error fault => fail 2 s!"{name}: cannot open \"{textOf file}\" ({fault})"
    return ([10].intercalate texts, arguments)

/-- Run a script for records under a name. -/
def program (name : String) (launch : Launch) : Shell.Program := fun arguments => do
  let (options, rest) ← readOptions name (arguments.length + 1) arguments ⟨none, [], []⟩
  let (text, rest) ← scriptText name options rest
  match readScript text with
  | .error complaints =>
    for complaint in complaints do Run.complainPlain s!"{name}: {complaint}"
    return 2
  | .ok script =>
    let start := Memory.start name script (bytesOf name :: rest) (← seenVariables)
    let work : Work Unit := do
      match options.divider with
      | some divider => Work.putVariable "FS" (.text divider)
      | none => pure ()
      for (name, v) in options.assignments do Work.putVariable name v
      Work.all launch
    let whole : Work Unit := do
      let _ ← Work.attempt work
      Work.closeAll launch
    let (_, memory) ← StateT.run (ExceptT.run whole) start
    return memory.status

end ConfigTemplate.Shell.Programs.Records
