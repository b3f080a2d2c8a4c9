import ConfigTemplate.Shell.Programs.Records.Reader
import ConfigTemplate.Shell.Programs.Records.Table

/-!
# The memory of a script for records

What a script at work holds: the present record with its fields, variables and tables, and what is
being read and written.
-/

namespace ConfigTemplate.Shell.Programs.Records

open Text (Bytes)
open Run (bytesOf textOf)

/-- What a name stands for. -/
inductive Slot where
  | value (v : Value)
  /-- A table by its number. -/
  | table (number : Nat)

/-- What is left of something that is being read, and the status of the command that it is from. -/
structure Source.Open where
  name : Bytes
  isCommand : Bool
  rest : Bytes
  status : Nat

/-- Something that is being written, with what has not been passed on. -/
structure Output.Open where
  name : Bytes
  isCommand : Bool
  content : Bytes

/-- The memory of a script. -/
structure Memory where
  /-- What the program is called in complaints. -/
  name : String
  script : Script
  globals : List (String × Slot)
  /-- The names that belong to the present call of a function. -/
  locals : List (String × Slot)
  tables : Array Table
  record : Bytes
  fields : Array Value
  /-- The rules whose range has begun. -/
  begun : List Nat
  /-- What is left of the file that is being read, and the number of the argument after it. -/
  input : Option Bytes
  argument : Nat
  /-- Whether there was a file among the arguments. -/
  sawFile : Bool
  sources : List Source.Open
  /-- The outputs, the one opened last first. -/
  outputs : List Output.Open
  /-- What has not been written yet. -/
  pending : Bytes
  /-- The number of bytes that have been written. -/
  passed : Nat
  status : Nat
  seed : Float
  random : Nat

/-- How a part of a script is left. -/
inductive Leap where
  | next
  | nextFile
  | exit
  | leave
  | again
  | back (value : Value)
  /-- A fault has ended the script. -/
  | fault

/-- Work of a script. -/
abbrev Work := ExceptT Leap (StateT Memory Run)

namespace Work

/-- Work, and how it was left. -/
def attempt {α : Type} (work : Work α) : Work (Except Leap α) :=
  ExceptT.mk do return .ok (← ExceptT.run work)

/-- Something that all programs do. -/
def perform {α : Type} (work : Run α) : Work α := ExceptT.lift (StateT.lift work)

/-- Change the memory. -/
def change (f : Memory → Memory) : Work Unit := modify f

/-- What a name stands for. -/
def slot? (name : String) : Work (Option Slot) := do
  let m ← get
  return (Entries.get? name m.locals).or (Entries.get? name m.globals)

/-- Let a name stand for something. -/
def putSlot (name : String) (slot : Slot) : Work Unit :=
  change fun m =>
    if (Entries.get? name m.locals).isSome then
      { m with locals := Entries.put name slot m.locals }
    else { m with globals := Entries.put name slot m.globals }

/-- The value of a variable. -/
def valueOf (name : String) : Work Value := do
  match ← slot? name with
  | some (.value v) => return v
  | _ => return .nothing

/-- The number of the table of a name; there is one from now on. -/
def tableOf (name : String) : Work Nat := do
  match ← slot? name with
  | some (.table number) => return number
  | _ =>
    let number := (← get).tables.size
    change fun m => { m with tables := m.tables.push .empty }
    putSlot name (.table number)
    return number

/-- A table by its number. -/
def table (number : Nat) : Work Table := do return (← get).tables.getD number .empty

/-- Put a table in place of another one. -/
def putTable (number : Nat) (table : Table) : Work Unit :=
  change fun m => { m with tables := m.tables.setIfInBounds number table }

/-- The format of numbers in texts. -/
def format : Work Bytes := do return (← valueOf "CONVFMT").toText (bytesOf "%.6g")

/-- The text of a value. -/
def textIn (v : Value) : Work Bytes := do
  match v with
  | .number _ => return v.toText (← format)
  | v => return v.toText []

/-- The text of a variable. -/
def textOfVariable (name : String) : Work Bytes := do textIn (← valueOf name)

/-- A variable as a count. -/
def countOf (name : String) : Work Nat := do
  return (bounded (← valueOf name).toNumber).toNat

/-- The number of bytes that are written before nobody reads any more. -/
def mostWritten : Nat := 1048576

/-- Write what has not been written yet. -/
def flush : Work Unit := do
  let m ← get
  let passed := m.passed + m.pending.length
  set { m with pending := [], passed := passed }
  if !m.pending.isEmpty then perform (Run.write 1 m.pending)
  if mostWritten < passed then perform (throw (.killed 13))

/-- Add to a file that is being written. -/
def passOn (o : Output.Open) : Work Output.Open := do
  if o.isCommand then return o
  let _ ← perform (Storage.write o.name true o.content)
  return { o with content := [] }

/-- Write all that has not been written yet, as far as it does not go to commands. -/
def flushAll : Work Unit := do
  flush
  let outputs ← (← get).outputs.mapM passOn
  change fun m => { m with outputs := outputs }

/-- End the script because of a fault. -/
def stopWith {α : Type} (text : String) : Work α := do
  let m ← get
  perform (Run.complainPlain s!"{m.name}: {text}")
  set { m with status := 2 }
  throw .fault

/-- End the script because of a fault at work. -/
def fail {α : Type} (text : String) : Work α := do
  let file := textOf (← textOfVariable "FILENAME")
  let inFile ← textOfVariable "FNR"
  let all ← textOfVariable "NR"
  stopWith (s!"run time error: {text}\n\tFILENAME=\"{file}\" " ++
    s!"FNR={textOf inFile} NR={textOf all}")

/-- The expression that a text writes. -/
def patternIn (text : Bytes) : Work Regular := do
  match patternOf (charsOf text) with
  | .ok r => return r
  | .error complaint => fail complaint

/-- A text as a subject of matches. -/
def subjectOf (text : Bytes) : Regular.Subject := ⟨(charsOf text).toArray, false, true⟩

/-- The parts of a subject between matches that are not empty, from a place on. -/
def partsBetween (x : Regular.Subject) (r : Regular) : Nat → Nat → Nat → List Bytes
  | 0, start, _ => [bytesIn (x.part start x.chars.size)]
  | fuel + 1, start, place =>
    match r.find? x place with
    | none => [bytesIn (x.part start x.chars.size)]
    | some found =>
      if found.stop = found.start then
        if x.chars.size ≤ found.start then [bytesIn (x.part start x.chars.size)]
        else partsBetween x r fuel start (found.start + 1)
      else bytesIn (x.part start found.start) :: partsBetween x r fuel found.stop found.stop

/-- What divides a text into parts. -/
inductive Divider where
  | blanks
  | characters
  | byte (b : UInt8)
  | pattern (r : Regular)

/-- The divider that a text writes. -/
def dividerOf (text : Bytes) : Work Divider := do
  match text with
  | [32] => return .blanks
  | [] => return .characters
  | [b] => return .byte b
  | text => return .pattern (← patternIn text)

/-- The words between blanks. -/
def words (text : Bytes) : List Bytes :=
  ((text.map fun b => if isBlank b then 32 else b).splitOn 32).filter (!·.isEmpty)

/-- The parts into which a divider divides a text. -/
def partsOf (divider : Divider) (text : Bytes) : List Bytes :=
  if text.isEmpty then []
  else
    match divider with
    | .blanks => words text
    | .characters => text.map ([·])
    | .byte b => text.splitOn b
    | .pattern r =>
      let x := subjectOf text
      partsBetween x r (x.chars.size + 1) 0 0

/-- Say how many fields there are. -/
def putCount (count : Nat) : Work Unit :=
  change fun m => { m with globals := Entries.put "NF" (.value (.ofNat count)) m.globals }

/-- Take a text as the record. -/
def putRecord (text : Bytes) : Work Unit := do
  let divider ← dividerOf (← textOfVariable "FS")
  let isParagraph := (← textOfVariable "RS").isEmpty
  let parts :=
    match divider, isParagraph with
    | .blanks, _ | _, false => partsOf divider text
    | divider, true => (linesOf text).flatMap (partsOf divider)
  change fun m => { m with record := text, fields := (parts.map ofRead).toArray }
  putCount parts.length

/-- Put the record together from its fields. -/
def rebuild : Work Unit := do
  let separator ← textOfVariable "OFS"
  let texts ← (← get).fields.toList.mapM textIn
  change fun m => { m with record := separator.intercalate texts }

/-- A field; the record has the number zero. -/
def field (number : Nat) : Work Value := do
  let m ← get
  match number with
  | 0 => return ofRead m.record
  | n + 1 => return m.fields.getD n .nothing

/-- The most fields that a record can be given. -/
def mostFields : Nat := 100000

/-- Let a record have so many fields. -/
def resize (count : Nat) : Work Unit := do
  let count := min count mostFields
  change fun m =>
    let fields := m.fields.toList.take count
    { m with fields := (fields ++ List.replicate (count - fields.length) (Value.text [])).toArray }
  putCount count

/-- Put a field. -/
def putField (number : Nat) (v : Value) : Work Unit := do
  match number with
  | 0 => putRecord (← textIn v)
  | n + 1 =>
    if mostFields < number then return
    if (← get).fields.size < number then resize number
    change fun m => { m with fields := m.fields.setIfInBounds n v }
    rebuild

/-- Put a variable. -/
def putVariable (name : String) (v : Value) : Work Unit := do
  let isOwn := (Entries.get? name (← get).locals).isSome
  putSlot name (.value v)
  if name = "NF" && !isOwn then
    resize (bounded v.toNumber).toNat
    rebuild

/-- The value of an assignment among the arguments. -/
def givenValue (text : Bytes) : Value :=
  let cs := charsOf text
  ofRead (bytesIn (unescaped (cs.length + 1) cs))

/-- The name and the value of an argument that assigns. -/
def assignment? (text : Bytes) : Option (String × Value) :=
  let name := charsOf (text.takeWhile (· ≠ 61))
  if text.contains 61 && name.head?.any isNameFront && name.all isNameChar then
    some (String.ofList name, givenValue (text.drop (name.length + 1)))
  else none

/-- The record at the front of a text by what separates records, and what follows it. -/
def cut (separator : Bytes) (text : Bytes) : Work (Bytes × Bytes) := do
  match separator with
  | [b] =>
    let front := text.takeWhile (· ≠ b)
    return (front, text.drop (front.length + 1))
  | [] =>
    let lines := (text.dropWhile (· = 10)).splitOn 10
    let front := lines.takeWhile (!·.isEmpty)
    let rest := [10].intercalate (lines.drop front.length)
    return ([10].intercalate front, rest.dropWhile (· = 10))
  | separator =>
    let r ← patternIn separator
    let x := subjectOf text
    match r.find? x 0 with
    | some found =>
      if found.stop = found.start then return (text, [])
      else return (bytesIn (x.part 0 found.start), bytesIn (x.part found.stop x.chars.size))
    | none => return (text, [])

/-- Whether there is a further record in a text. -/
def hasRecord (separator : Bytes) (text : Bytes) : Bool :=
  if separator.isEmpty then text.any (· ≠ 10) else !text.isEmpty

/-- Begin to read a file. -/
def openInput (name : Bytes) : Work Unit := do
  match ← perform (contentOf name) with
  | .ok content =>
    change fun m => { m with input := some content, sawFile := true }
    putVariable "FILENAME" (.text name)
    putVariable "FNR" (.number 0.0)
  | .error fault => stopWith s!"cannot open \"{textOf name}\" ({fault})"

/-- Begin to read the next file among the arguments; whether there is one comes back. -/
def openNext : Nat → Work Bool
  | 0 => return false
  | fuel + 1 => do
    let count ← countOf "ARGC"
    let number := (← get).argument
    if count ≤ number then
      if (← get).sawFile then return false
      openInput [45]
      return true
    change fun m => { m with argument := number + 1 }
    let id ← tableOf "ARGV"
    let key := Key.whole number
    let arguments ← table id
    if !arguments.contains key then return ← openNext fuel
    let text ← textIn (arguments.get key).1
    if text.isEmpty then openNext fuel
    else
      match assignment? text with
      | some (name, v) =>
        putVariable name v
        openNext fuel
      | none =>
        openInput text
        return true

/-- The next record among the files, if there is one. -/
def takeRecord? : Nat → Work (Option Bytes)
  | 0 => return none
  | fuel + 1 => do
    let separator ← textOfVariable "RS"
    match (← get).input with
    | some content =>
      if hasRecord separator content then
        let (record, rest) ← cut separator content
        change fun m => { m with input := some rest }
        for counter in ["NR", "FNR"] do
          putVariable counter (.number ((← valueOf counter).toNumber + 1.0))
        return some record
      else
        change fun m => { m with input := none }
        takeRecord? fuel
    | none =>
      if ← openNext ((← countOf "ARGC") + 2) then takeRecord? fuel else return none

/-- The next record among the files, if there is one. -/
def nextRecord? : Work (Option Bytes) := do takeRecord? ((← countOf "ARGC") + 3)

/-- Run a command, perhaps with something to read; the status comes back. -/
def run (launch : Launch) (shell : String) (command : Bytes) (input : Option Bytes) :
    Run Nat := do
  let before := (← Run.process).descriptors
  match input with
  | some content => Run.connect 0 (← Run.openChannel (.pipe content))
  | none => pure ()
  let result ← launch [bytesOf shell, bytesOf "-c", command]
  Run.modifyProcess ({ · with descriptors := before })
  match result with
  | .ok (.exited status) => return status
  | .ok (.killed signal) => return 256 + signal
  | .error _ => return 127

/-- Write to an output; it is opened if that has not been done. -/
def put (isCommand appends : Bool) (name content : Bytes) : Work Unit := do
  match textOf name, isCommand with
  | "/dev/stdout", false | "-", false =>
    change fun m => { m with pending := m.pending ++ content }
  | "/dev/stderr", false => perform (Run.write 2 content)
  | _, _ =>
    let isThis (o : Output.Open) : Bool := o.name = name && o.isCommand = isCommand
    if (← get).outputs.any isThis then
      change fun m =>
        { m with outputs := m.outputs.map fun o =>
            if isThis o then { o with content := o.content ++ content } else o }
    else
      if isCommand then flushAll
      else
        match ← perform (Storage.write name appends []) with
        | .ok () => pure ()
        | .error fault =>
          let reason := Storage.wording fault
          stopWith s!"cannot open \"{textOf name}\" for output ({reason})"
      change fun m => { m with outputs := ⟨name, isCommand, content⟩ :: m.outputs }

/-- The most bytes that are kept before they are written. -/
def mostPending : Nat := 4096

/-- Write to where output goes if nothing is said. -/
def putStandard (content : Bytes) : Work Unit := do
  change fun m => { m with pending := m.pending ++ content }
  if mostPending ≤ (← get).pending.length then flush

/-- Close what a name leads to. The status is less than zero if nothing is open. -/
def close (launch : Launch) (name : Bytes) : Work Int := do
  let m ← get
  match m.outputs.find? (·.name = name), m.sources.find? (·.name = name) with
  | some o, _ =>
    flushAll
    change fun m => { m with outputs := m.outputs.filter (·.name ≠ name) }
    if o.isCommand then
      return (← perform (run launch "/bin/sh" name (some o.content)) : Nat)
    else return 0
  | none, some source =>
    change fun m => { m with sources := m.sources.filter (·.name ≠ name) }
    return source.status
  | none, none => return -1

/-- Close all outputs: first those to commands. -/
def closeAll (launch : Launch) : Work Unit := do
  for o in (← get).outputs do
    if o.isCommand then
      let _ ← perform (run launch "/bin/sh" o.name (some o.content))
  flushAll

/-- What is being read, once it has been opened. -/
def opened (launch : Launch) (isCommand : Bool) (name : Bytes) : Work (Option Source.Open) := do
  let isThis (s : Source.Open) : Bool := s.name = name && s.isCommand = isCommand
  match (← get).sources.find? isThis with
  | some source => return some source
  | none =>
    if isCommand then
      flushAll
      let (status, content) ← perform (Run.capture 1 (run launch "/bin/sh" name none))
      return some ⟨name, true, content, status⟩
    else
      match ← perform (contentOf name) with
      | .ok content => return some ⟨name, false, content, 0⟩
      | .error _ => return none

/-- Read a record from a file or a command. There may be none left, or nothing to read from. -/
def readFrom (launch : Launch) (isCommand : Bool) (name : Bytes) :
    Work (Except Int Bytes) := do
  let isThis (s : Source.Open) : Bool := s.name = name && s.isCommand = isCommand
  match ← opened launch isCommand name with
  | none => return .error (-1)
  | some source =>
    let separator ← textOfVariable "RS"
    let keep (source : Source.Open) : Work Unit :=
      change fun m => { m with sources := source :: m.sources.filter (!isThis ·) }
    if hasRecord separator source.rest then
      let (record, rest) ← cut separator source.rest
      keep { source with rest := rest }
      return .ok record
    else
      keep { source with rest := [] }
      return .error 0

end Work

end ConfigTemplate.Shell.Programs.Records
