import ConfigTemplate.Shell.Builtins.Basic
import ConfigTemplate.Shell.Signal

/-!
# Commands for signals and jobs

The commands that say what is done about signals, that send them, and that show the work that goes
on beside the shell.
-/

namespace ConfigTemplate.Shell.Builtins

open Text (Bytes)
open Run (bytesOf textOf)

/-- The signal that a text names: by its number or by its name in letters of either case. -/
def signal? (text : Bytes) : Option Nat :=
  if !text.isEmpty && text.all (fun b => 48 ≤ b && b ≤ 57) then
    (Number.count? text).filter (· < Signal.names.length)
  else Signal.ofName? (textOf text)

/-- Set what is done about signals, or show it. -/
def trap : Program := fun arguments => do
  let (_, texts) ← options [] [] arguments
  match texts with
  | [] =>
    let traps := (← Run.process).traps.mergeSort fun a b => a.1 ≤ b.1
    for (signal, action) in traps do
      let name := Signal.names.getD signal ""
      Run.write 1 (bytesOf "trap -- " ++ quoted action ++ bytesOf s!" {name}\n")
    return 0
  | first :: rest =>
    let isNumber := (Number.count? first).isSome && (signal? first).isSome
    let (action, names) : Option Bytes × List Bytes :=
      if rest.isEmpty || isNumber then (none, texts)
      else (if first = [45] then none else some first, rest)
    setAll action names
where
  /-- Set what is done about the signals of some names. -/
  setAll (action : Option Bytes) : List Bytes → Run Nat
    | [] => return 0
    | name :: rest => do
      match signal? name with
      | none =>
        Run.complainPlain s!"trap: {textOf name}: bad trap"
        return 1
      | some signal =>
        Run.modifyProcess fun p =>
          let others := p.traps.filter (·.1 != signal)
          { p with
            traps :=
              match action with
              | some action => (signal, action) :: others
              | none => others }
        setAll action rest

/-- How the sending of signals is used. -/
def killUsage : String :=
  "Usage: kill [-s sigspec | -signum | -sigspec] [pid | job]... or\nkill -l [exitstatus]"

/-- The name of the signal of a number or of a status. -/
def signalName (text : Bytes) : Run Nat := do
  let n ← demandNumber text
  let signal := if 128 < n then n - 128 else n
  match if signal = 0 then none else Signal.names[signal]? with
  | some name =>
    Run.write 1 (bytesOf (name ++ "\n"))
    return 0
  | none => Run.fail s!"invalid signal number or exit status: {textOf text}"

/-- End a job that has not begun by a signal. Whether there is such a job comes back. -/
def endJob (signal number : Nat) : Run Bool := do
  let s ← get
  if s.waiting.any (·.number = number) then
    if !Signal.harmless.contains signal then
      set { s with
        waiting := s.waiting.filter (·.number != number)
        ended := Entries.put number (.killed signal) s.ended }
    return true
  else return (Entries.get? number s.ended).isSome && s.process.jobs.contains number

/-- Send a signal to a process. One to the shell itself is noticed after the present command, unless
it ends the shell at once. -/
def send (signal : Nat) (target : Bytes) : Run Nat := do
  let p ← Run.process
  if target.head? = some 37 then
    match ((Number.count? (target.drop 1)).filter (0 < ·)).bind fun n => p.jobs[n - 1]? with
    | some _ =>
      Run.complain "No such process\n"
      return 1
    | none => Run.fail s!"No such job: {textOf target}"
  let number ← demandNumber (if target.head? = some 45 then target.drop 1 else target)
  if number = p.number || number = 0 then
    if signal = 0 then return 0
    let isCaught := (Entries.get? signal p.traps).isSome
    if p.isMain && !isCaught && !Signal.harmless.contains signal || signal = 9 && p.isMain then
      throw (.killed signal)
    modify fun s => { s with pending := s.pending ++ [(p.number, signal)] }
    return 0
  if ← endJob signal number then return 0
  Run.complain "No such process\n"
  return 1

/-- Send signals, or show their names. -/
def kill : Program := fun arguments => do
  if arguments.isEmpty then Run.fail killUsage
  let first := arguments.headD []
  let direct := if first.head? = some 45 then signal? (first.drop 1) else none
  let (signal, lists, targets) : Option Nat × Bool × List Bytes ←
    match direct with
    | some signal => pure (some signal, false, arguments.drop 1)
    | none => do
      if first.head? = some 45 then
        let (found, rest) ← options ['l'] ['s'] arguments
        let lists := found.any (·.1 = 'l')
        match found.reverse.find? (·.1 = 's') with
        | some (_, name) =>
          match signal? name with
          | some signal => pure (some signal, lists, rest)
          | none => Run.fail s!"invalid signal number or name: {textOf name}"
        | none => pure (none, lists, rest)
      else pure (none, false, arguments)
  if lists then
    if signal.isSome then Run.fail killUsage
    match targets with
    | [] =>
      Run.write 1 (bytesOf ("0\n" ++ String.join ((Signal.names.drop 1).map (· ++ "\n"))))
      return 0
    | text :: _ => signalName text
  else
    if targets.isEmpty then Run.fail killUsage
    targets.foldlM (fun status target => do
      return max status (← send (signal.getD 15) target)) 0

/-- The number of the job that a text names. -/
def jobOf (text : Option Bytes) : Run Nat := do
  let p ← Run.process
  match text with
  | none =>
    match p.jobs.getLast? with
    | some number => return number
    | none => Run.fail "No current job"
  | some text =>
    match ((Number.count? (text.drop 1)).filter (0 < ·)).bind fun n => p.jobs[n - 1]? with
    | some number => return number
    | none => Run.fail s!"No such job: {textOf text}"

/-- Show the jobs. -/
def jobs : Program := fun arguments => do
  let (found, texts) ← options ['l', 'p'] [] arguments
  let p ← Run.process
  let s ← get
  let shown ← if texts.isEmpty then pure p.jobs else texts.mapM fun text => jobOf (some text)
  for number in shown do
    let place := (p.jobs.idxOf number) + 1
    let sign :=
      if place = p.jobs.length then "+" else if place + 1 = p.jobs.length then "-" else " "
    let state :=
      match Entries.get? number s.ended with
      | none => "Running"
      | some (.exited 0) => "Done"
      | some (.exited status) => s!"Done({status})"
      | some (.killed signal) => (Signal.obituary? signal).getD ""
    let blanks := String.ofList (List.replicate (27 - state.length) ' ')
    if found.any (·.1 = 'p') then Run.write 1 (bytesOf s!"{number}\n")
    else Run.write 1 (bytesOf s!"[{place}] {sign} {state}{blanks}\n")
  let isOver (number : Nat) : Bool := (Entries.get? number s.ended).isSome
  Run.modifyProcess fun p =>
    { p with jobs := p.jobs.filter fun n => !(shown.contains n && isOver n) }
  return 0

/-- Go on with a job, which is not possible where jobs are not controlled. -/
def resume : Program := fun arguments => do
  let (_, texts) ← options [] [] arguments
  let _ ← jobOf texts.head?
  Run.fail "job (null) not created under job control"

end ConfigTemplate.Shell.Builtins
