import ConfigTemplate.Shell.Reader
import ConfigTemplate.Shell.Signal
import ConfigTemplate.Shell.State

/-!
# Processes

How a shell runs the lines of a script, how a process ends, and how a shell runs other processes:
one after the other, or as jobs for which it does not wait. A job begins when the shell waits for
it, or when the time has come at which it does something.
-/

namespace ConfigTemplate.Shell

open Text (Bytes)
open Run (bytesOf textOf)

/-- What runs a command and gives its status. The first argument tells that the status is tested,
so that it is no failure whatever it is. -/
abbrev Evaluator := Bool → Command → Run Nat

namespace Execute

/-- Remember a status. One that is not zero ends the shell if an option says so. -/
def settled (tested : Bool) (status : Nat) : Run Nat := do
  Run.modifyProcess ({ · with status := status })
  if status ≠ 0 && !tested && (← Run.process).options.contains 'e' then throw (.exit status)
  return status

/-- Run the commands of a script line by line. Where `shows` holds, an option has the lines shown
before that. -/
def lines (run : Evaluator) (tested shows : Bool) : Nat → Source → Nat → Run Nat
  | 0, _, status => return status
  | fuel + 1, source, status => do
    if source.rest.isEmpty then return status
    let source := { source with aliases := (← Run.process).aliases, used := [] }
    let echo (text : List Char) : Run Unit := do
      if shows && (← Run.process).options.contains 'v' then
        Run.write 2 (bytesOf (String.ofList text))
    match Reader.nextLine source with
    | .error complaint =>
      echo source.rest
      Run.modifyProcess ({ · with line := complaint.line })
      Run.fail complaint.text
    | .ok (commands, after) =>
      echo (source.rest.take (source.rest.length - after.rest.length))
      Run.modifyProcess ({ · with lineRead := after.line })
      let status ← commands.foldlM (fun _ command => run tested command) status
      lines run tested shows fuel after status

/-- Run the commands that a text writes. -/
def script (run : Evaluator) (tested shows : Bool) (text : Bytes) : Run Nat := do
  let cs := (textOf (text.filter (· != 0))).toList
  let before := (← Run.process).lineRead
  let status ← lines run tested shows (cs.length + 1) { rest := cs, line := 1 } 0
  Run.modifyProcess ({ · with lineRead := before })
  return status

/-- The result of some work, be it stopped or not. -/
def attempt {α : Type} (work : Run α) : Run (Except Stop α) := fun s =>
  let (result, after) := work s
  (.ok result, after)

/-- Run what is set for the end of a shell. -/
def farewell (run : Evaluator) (status : Nat) : Run Ending := do
  match Entries.get? 0 (← Run.process).traps with
  | none => return .exited (status % 256)
  | some action =>
    Run.modifyProcess fun p =>
      { p with
        status := status
        leaving := some status
        loops := 0
        traps := p.traps.filter (·.1 != 0) }
    match ← attempt (script run false false action) with
    | .error (.exit other) => return .exited (other % 256)
    | .error (.killed signal) => return .killed signal
    | _ => return .exited (status % 256)

/-- Run a process to its end. -/
def whole (run : Evaluator) (work : Run Nat) : Run Ending := do
  match ← attempt work with
  | .ok status | .error (.exit status) | .error (.mistake status) | .error (.back status) =>
    farewell run status
  | .error (.leave _) | .error (.again _) => farewell run (← Run.process).status
  | .error (.killed signal) => return .killed signal

/-- A copy of a process: of what is done about signals only what ignores them stays. -/
def copyOf (p : Process) : Process :=
  { p with isMain := false, lineRead := 1, traps := p.traps.filter (·.2.isEmpty), jobs := [] }

/-- Run a copy of the shell to its end. -/
def child (run : Evaluator) (work : Run Nat) : Run Ending :=
  Run.isolated do
    Run.modifyProcess copyOf
    whole run work

/-- The status of a process that has ended; the shell says of what it has died. -/
def statusOf (ending : Ending) : Run Nat := do
  match ending with
  | .exited _ => pure ()
  | .killed signal => (Signal.obituary? signal).forM Run.complainPlain
  return ending.status

/-- Do what is to be done about the signals that have come to the shell. -/
def attend (run : Evaluator) : Run Unit := do
  let s ← get
  if s.pending.isEmpty || !s.process.isMain then return
  let (own, others) := s.pending.partition (·.1 = s.process.number)
  if own.isEmpty then return
  set { s with pending := others }
  for (_, signal) in own do
    match Entries.get? signal s.process.traps with
    | none => if Signal.harmless.contains signal then pure () else throw (.killed signal)
    | some action =>
      if !action.isEmpty then
        let status := (← Run.process).status
        let _ ← script run false false action
        Run.modifyProcess ({ · with status := status })

/-- The time that a command sleeps before it does anything else. -/
def leadingSleep : Command → Nat
  | .simple _ [] [word, amount] _ =>
    let plain (word : Word) : String :=
      String.ofList (word.flatMap fun piece =>
        match piece with
        | .text chars _ => chars
        | _ => [])
    if plain word = "sleep" then (thousandths (plain amount).toList).getD 0 else 0
  | .sequence (first :: _) => leadingSleep first
  | .and first _ => leadingSleep first
  | .or first _ => leadingSleep first
  | .subshell body => leadingSleep body
  | .redirected body _ => leadingSleep body
  | _ => 0
where
  /-- The thousandths of a second in a number with a point. -/
  thousandths (cs : List Char) : Option Nat :=
    let whole := cs.takeWhile Char.isDigit
    let fraction :=
      match cs.drop whole.length with
      | '.' :: rest => rest
      | _ => []
    (String.ofList (whole ++ (fraction ++ ['0', '0', '0']).take 3)).toNat?

/-- The number of a new process. -/
def nextNumber : Run Nat := do
  modify fun s => { s with processes := s.processes + 1 }
  return processNumber + (← get).processes

/-- Begin a job, which is run later. -/
def background (body : Command) : Run Nat := do
  let number ← nextNumber
  let nothing ← Run.openChannel ⟨.sink, 0, true, false, false⟩
  modify fun s =>
    let p := copyOf s.process
    let job : Job :=
      { number := number
        begun := s.clock
        due := s.clock + leadingSleep body
        process := { p with descriptors := Entries.put 0 nothing p.descriptors }
        home := s.files.home
        command := body }
    { s with
      waiting := s.waiting ++ [job]
      process := { s.process with lastJob := some number, jobs := s.process.jobs ++ [number] } }
  settled true 0

/-- Run a job to its end. The time is then what it was if that is later. -/
def perform (run : Evaluator) (job : Job) : Run Unit := do
  let clock := (← get).clock
  modify fun s =>
    { s with waiting := s.waiting.filter (·.number != job.number), clock := job.begun }
  let ending ← Run.isolated do
    modify fun s => { s with process := job.process, files := { s.files with home := job.home } }
    whole run (run false job.command)
  modify fun s =>
    { s with ended := Entries.put job.number ending s.ended, clock := max clock s.clock }

/-- Run the jobs that satisfy a condition, the ones first that do something first. -/
def performAll (run : Evaluator) (wanted : State → Job → Bool) : Nat → Run Unit
  | 0 => pure ()
  | fuel + 1 => do
    let s ← get
    match (s.waiting.filter (wanted s)).mergeSort fun a b => a.due ≤ b.due with
    | [] => pure ()
    | job :: _ =>
      perform run job
      performAll run wanted fuel

/-- The number of jobs that are run at once at most. -/
def mostJobs : Nat := 1000

/-- Run the jobs whose time has come. -/
def performDue (run : Evaluator) : Run Unit := do
  let s ← get
  if s.waiting.isEmpty then pure ()
  else performAll run (fun s job => job.due ≤ s.clock) mostJobs

/-- Run the jobs that can write to a channel. -/
def performInto (run : Evaluator) (channel : Nat) : Run Unit := do
  if (← get).waiting.isEmpty then pure ()
  else performAll run (fun _ job => job.process.descriptors.any (·.2 = channel)) mostJobs

/-- Wait for jobs: for all of them, or for those of some numbers. -/
def wait (run : Evaluator) (number : Bytes → Run Nat) (texts : List Bytes) : Run Nat := do
  if texts.isEmpty then
    let jobs := (← Run.process).jobs
    performAll run (fun _ job => jobs.contains job.number) mostJobs
    return 0
  texts.foldlM (fun _ text => do
    let wanted ← number text
    match (← get).waiting.find? (·.number = wanted) with
    | some job => performAll run (fun _ other => other.due ≤ job.due) mostJobs
    | none => pure ()
    if !(← Run.process).jobs.contains wanted then return 127
    match Entries.get? wanted (← get).ended with
    | some ending => statusOf ending
    | none => return 127) 0

/-- The output of commands. -/
def outputOf (run : Evaluator) (body : List Command) : Run Bytes := do
  let number ← Run.openChannel (.pipe [])
  let ending ← child run do
    Run.connect 1 number
    run false (.sequence body)
  performInto run number
  let status ← statusOf ending
  Run.modifyProcess ({ · with outputStatus := status })
  Run.contentOf number

end Execute

end ConfigTemplate.Shell
