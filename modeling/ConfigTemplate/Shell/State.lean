import ConfigTemplate.Shell.Channel
import ConfigTemplate.Shell.Script
import ConfigTemplate.Shell.Stray

/-!
# The state of a shell

What a shell works on. A process has its variables, functions, arguments, options and descriptors;
the files and the channels are common to all processes. A process that begins as a copy of another
one changes nothing of it but what is common. A program is launched by its name and its arguments,
which may be impossible.
-/

namespace ConfigTemplate.Shell

open Text (Bytes)

/-- A variable: its value if it has one, whether programs see it, and whether it is fixed. -/
structure Variable where
  value : Option Bytes
  exported : Bool
  fixed : Bool

/-- What a function gives back when it ends: the variables that it made its own, as they were, and
the options if it made them its own. -/
structure Frame where
  held : List (String × Option Variable)
  options : Option (List Char)

/-- What belongs to one process. -/
structure Process where
  /-- What the shell is called in its complaints. -/
  name : String
  /-- The number that the shell gives as its own. -/
  number : Nat
  /-- Whether this is the shell of that number and no copy of it. -/
  isMain : Bool
  /-- The path of the working directory as the shell names it. -/
  directory : String
  bindings : List (String × Variable)
  functions : List (String × Command)
  aliases : List (String × String)
  arguments : List Bytes
  /-- The letters and names of the options that are on. -/
  options : List Char
  /-- The channels of descriptors. -/
  descriptors : List (Nat × Nat)
  /-- What is run at signals; nothing where they are ignored. -/
  traps : List (Nat × Bytes)
  frames : List Frame
  /-- The status of the last command. -/
  status : Nat
  /-- The status of the commands whose output a word was given last. -/
  outputStatus : Nat
  /-- The line of the present command. -/
  line : Nat
  /-- The line up to which the present script has been read. -/
  lineRead : Nat
  /-- The number of loops around the present command. -/
  loops : Nat
  /-- The shell's own command that is at work. -/
  speaker : Option String
  /-- The argument at which the reading of option letters goes on, and the place within the argument
  before it. -/
  letterIndex : Nat
  letterPlace : Nat
  /-- The status with which the shell is about to end. -/
  leaving : Option Nat
  /-- The number of the process that was started last without waiting for it. -/
  lastJob : Option Nat
  /-- The jobs that the shell may wait for. -/
  jobs : List Nat
  /-- The programs that were found, with the directories in which they are. -/
  found : List (String × String)
  /-- The rights that new files lack. -/
  mask : Nat

/-- How a process has ended. -/
inductive Ending where
  | exited (status : Nat)
  | killed (signal : Nat)
  deriving DecidableEq, Repr

/-- The status that a shell gives for an ending. -/
def Ending.status : Ending → Nat
  | exited status => status
  | killed signal => 128 + signal

/-- Work that is done while the shell goes on. -/
structure Job where
  number : Nat
  /-- When it has begun, and when it does something, in thousandths of a second. -/
  begun : Nat
  due : Nat
  process : Process
  home : Place
  command : Command

/-- The state of a shell. -/
structure State where
  process : Process
  files : Files
  /-- The places that stand for others, with the texts of the locations that they stand for. -/
  links : List (Place × String)
  /-- The rights of files, as far as they are not the usual ones. -/
  modes : List (Place × Nat)
  /-- When files were changed last, in seconds, as far as that has been said. -/
  stamps : List (Place × Int)
  channels : Array Channel
  /-- The jobs that have not begun. -/
  waiting : List Job
  /-- How jobs have ended. -/
  ended : List (Nat × Ending)
  /-- The thousandths of a second that have been slept. -/
  clock : Nat
  /-- The number of processes that have been started. -/
  processes : Nat
  /-- The signals that have come and not been noticed, with the numbers of their processes. -/
  pending : List (Nat × Nat)
  /-- Why something could not be written. -/
  writeFault : Option Channel.Fault

/-- The number of the process that a shell is. -/
def processNumber : Nat := 4242

/-- The variables of a shell that begins, beside those that it is given. -/
def ownBindings : List (String × Variable) :=
  let own (name text : String) : String × Variable :=
    (name, ⟨some (Text.toBytes text), false, false⟩)
  [own "IFS" " \t\n", own "OPTIND" "1", own "PS1" "# ", own "PS2" "> ", own "PS4" "+ ",
    own "PPID" "4241"]

/-- The path that programs are looked for on where none is given. -/
def usualPath : String := "/usr/local/sbin:/usr/local/bin:/usr/sbin:/usr/bin:/sbin:/bin"

/-- The path of a place. -/
def pathOf (place : Place) : String := "/" ++ String.intercalate "/" place

/-- A shell that begins: its name, its working directory, and the variables that it is given. -/
def Process.start (name : String) (home : Place) (environment : List (String × Bytes)) :
    Process where
  name := name
  number := processNumber
  isMain := true
  directory := pathOf home
  bindings :=
    let given := (environment.filter (·.1 != "IFS")).map fun (key, value) =>
      (key, (⟨some value, true, false⟩ : Variable))
    let all := ownBindings.foldl (fun all (key, held) => Entries.put key held all) given
    let all := Entries.put "PWD" ⟨some (Text.toBytes (pathOf home)), true, false⟩ all
    if (Entries.get? "PATH" all).isSome then all
    else Entries.put "PATH" ⟨some (Text.toBytes usualPath), false, false⟩ all
  functions := []
  aliases := []
  arguments := []
  options := []
  descriptors := [(0, 0), (1, 1), (2, 2)]
  traps := []
  frames := []
  status := 0
  outputStatus := 0
  line := 1
  lineRead := 1
  loops := 0
  speaker := none
  letterIndex := 1
  letterPlace := 0
  leaving := none
  lastJob := none
  jobs := []
  found := []
  mask := 0o022

/-- The places that stand for others from the beginning. -/
def ownLinks : List (Place × String) :=
  [(["bin"], "usr/bin"), (["sbin"], "usr/sbin"), (["lib"], "usr/lib"),
    (["usr", "bin", "sh"], "dash"), (["usr", "bin", "awk"], "mawk")]

/-- A shell that begins in some files. There is nothing for it to read; what it writes goes to the
channel of its number. -/
def State.start (name : String) (files : Files) (environment : List (String × Bytes)) : State where
  process := .start name files.home environment
  files := files
  links := ownLinks
  modes := []
  stamps := []
  channels := #[⟨.sink, 0, true, true, false⟩, .pipe [], .pipe []]
  waiting := []
  ended := []
  clock := 0
  processes := 0
  pending := []
  writeFault := none

/-- What stops a shell, or a part of it. -/
inductive Stop where
  | exit (status : Nat)
  /-- A mistake that ends a shell, but not where it is made by one of its ordinary commands. -/
  | mistake (status : Nat)
  | killed (signal : Nat)
  /-- Leave so many loops. -/
  | leave (loops : Nat)
  /-- Go on with the next round of a loop around so many others. -/
  | again (loops : Nat)
  /-- Go back from a function. -/
  | back (status : Nat)
  deriving DecidableEq, Repr

/-- A piece of a shell's work. -/
abbrev Run := ExceptT Stop (StateM State)

/-- A command by what it does with its arguments. -/
abbrev Program := List Bytes → Run Nat

namespace Run

/-- The bytes of a text. -/
def bytesOf (text : String) : Bytes := Stray.encode text

/-- The text of bytes. -/
def textOf (bytes : Bytes) : String := String.ofList (Stray.decode bytes)

/-- The process at work. -/
def process : Run Process := do return (← get).process

/-- Change the process at work. -/
def modifyProcess (change : Process → Process) : Run Unit :=
  modify fun s => { s with process := change s.process }

/-- A channel of one's own, by its number. -/
def openChannel (channel : Channel) : Run Nat := do
  let number := (← get).channels.size
  modify fun s => { s with channels := s.channels.push channel }
  return number

/-- The number of the channel of a descriptor, and the channel. -/
def channel? (descriptor : Nat) : Run (Option (Nat × Channel)) := do
  let s ← get
  match Entries.get? descriptor s.process.descriptors with
  | none => return none
  | some number => return s.channels[number]?.map fun channel => (number, channel)

/-- Let a descriptor lead to a channel. -/
def connect (descriptor number : Nat) : Run Unit :=
  modifyProcess fun p => { p with descriptors := Entries.put descriptor number p.descriptors }

/-- Let a descriptor lead nowhere. -/
def disconnect (descriptor : Nat) : Run Unit :=
  modifyProcess fun p => { p with descriptors := p.descriptors.filter (·.1 != descriptor) }

/-- Write bytes to a descriptor. It is noted if output cannot be written. -/
def write (descriptor : Nat) (content : Bytes) : Run Unit := do
  let s ← get
  match ← channel? descriptor with
  | none =>
    if !content.isEmpty && descriptor = 1 then set { s with writeFault := some .badDescriptor }
  | some (number, channel) =>
    match channel.written s.files content with
    | .ok (files, channel) =>
      set { s with files := files, channels := s.channels.setIfInBounds number channel }
    | .error fault =>
      if !content.isEmpty && descriptor = 1 then set { s with writeFault := some fault }

/-- What there is to read at a descriptor. Some of it is taken: as much as is said, once one knows
what there is. -/
def readWith (descriptor : Nat) (amount : Bytes → Nat) : Run (Except Channel.Fault Bytes) := do
  let s ← get
  match ← channel? descriptor with
  | none => return .error .badDescriptor
  | some (number, channel) =>
    match channel.unread s.files with
    | .error fault => return .error fault
    | .ok content =>
      let count := min (amount content) content.length
      let channel := channel.advanced count (content.drop count)
      set { s with channels := s.channels.setIfInBounds number channel }
      return .ok (content.take count)

/-- Read all that there is at a descriptor. -/
def readAll (descriptor : Nat) : Run (Except Channel.Fault Bytes) :=
  readWith descriptor List.length

/-- What has been written to a channel and not been read. -/
def contentOf (number : Nat) : Run Bytes := do
  let s ← get
  return (s.channels[number]?.map fun channel => (channel.unread s.files).toOption.getD []).getD []

/-- Work, and what it writes to a descriptor. -/
def capture {α : Type} (descriptor : Nat) (work : Run α) : Run (α × Bytes) := do
  let before := (← process).descriptors
  let number ← openChannel (.pipe [])
  connect descriptor number
  let result ← work
  modifyProcess ({ · with descriptors := before })
  return (result, ← contentOf number)

/-- Write a complaint of the shell. -/
def complain (text : String) : Run Unit := do
  let p ← process
  let speaker := (p.speaker.map (· ++ ": ")).getD ""
  write 2 (bytesOf s!"{p.name}: {p.line}: {speaker}{text}\n")

/-- Write a complaint of a program. -/
def complainPlain (text : String) : Run Unit := write 2 (bytesOf (text ++ "\n"))

/-- Stop with a complaint. -/
def fail {α : Type} (text : String) : Run α := do
  complain text
  throw (.mistake 2)

/-- A variable. -/
def held? (name : String) : Run (Option Variable) := do
  return Entries.get? name (← process).bindings

/-- The value of a variable. -/
def valueOf? (name : String) : Run (Option Bytes) := do
  return (← held? name).bind Variable.value

/-- Put a variable. -/
def putVariable (name : String) (held : Variable) : Run Unit :=
  modifyProcess fun p =>
    let index := String.toNat? (textOf (held.value.getD []))
    { p with
      bindings := Entries.put name held p.bindings
      letterIndex := if name = "OPTIND" then max (index.getD 1) 1 else p.letterIndex
      letterPlace := if name = "OPTIND" then 0 else p.letterPlace
      found := if name = "PATH" then [] else p.found }

/-- Stop if a variable is fixed. -/
def demandFree (name : String) : Run Unit := do
  if ((← held? name).map Variable.fixed).getD false then fail s!"{name}: is read only"

/-- Stop if the variable is the one that counts arguments and the value is no count. -/
def demandIndex (name : String) (value : Bytes) : Run Unit := do
  if name = "OPTIND" then
    let digits := value.dropWhile fun b => b = 32 || (9 ≤ b && b ≤ 13)
    if digits.isEmpty || !digits.all (fun b => 48 ≤ b && b ≤ 57) then
      fail s!"Illegal number: {textOf value}"

/-- Assign a value to a variable. -/
def assign (name : String) (value : Bytes) : Run Unit := do
  demandFree name
  demandIndex name value
  let all := (← process).options.contains 'a'
  let exported := ((← held? name).map Variable.exported).getD false
  putVariable name ⟨some value, exported || all, false⟩

/-- Change what is known of a variable, which may have no value. -/
def adjust (name : String) (change : Variable → Variable) : Run Unit := do
  putVariable name (change ((← held? name).getD ⟨none, false, false⟩))

/-- Let programs see a variable. -/
def exportVariable (name : String) : Run Unit := adjust name ({ · with exported := true })

/-- Remove a variable. -/
def removeVariable (name : String) : Run Unit := do
  demandFree name
  demandIndex name []
  modifyProcess fun p => { p with bindings := p.bindings.filter (·.1 != name) }

/-- Make a variable one of the present frame, which gives it back as it was. -/
def makeLocal (name : String) : Run Unit := do
  let held ← held? name
  modifyProcess fun p =>
    match p.frames with
    | frame :: rest =>
      let held :=
        if (Entries.keys frame.held).contains name then frame.held
        else (name, held) :: frame.held
      { p with frames := { frame with held := held } :: rest }
    | [] => p

/-- Work in a frame of its own. -/
def inFrame {α : Type} (work : Run α) : Run α := do
  modifyProcess fun p => { p with frames := ⟨[], none⟩ :: p.frames }
  let leave : Run Unit :=
    modifyProcess fun p =>
      match p.frames with
      | frame :: rest =>
        let bindings := frame.held.foldl (fun bindings (name, held) =>
          match held with
          | some before => Entries.put name before bindings
          | none => bindings.filter (·.1 != name)) p.bindings
        { p with
          frames := rest
          bindings := bindings
          options := frame.options.getD p.options }
      | [] => p
  let result ← tryCatch work fun stop => do
    leave
    throw stop
  leave
  return result

/-- Work with the descriptors as they are, and have them again afterwards. -/
def withDescriptors {α : Type} (work : Run α) : Run α := do
  let before := (← process).descriptors
  let restore : Run Unit := modifyProcess ({ · with descriptors := before })
  let result ← tryCatch work fun stop => do
    restore
    throw stop
  restore
  return result

/-- Work in a process of its own: what belongs to the present one is as before afterwards. -/
def isolated {α : Type} (work : Run α) : Run α := fun s =>
  let (result, after) := work s
  (result, { after with
    process := s.process
    files := { after.files with home := s.files.home } })

end Run

/-! ### Launching programs -/

/-- Why a program cannot be started. -/
inductive Refusal where
  | missing
  | notDirectory
  | denied
  | tooLong
  deriving DecidableEq, Repr

/-- The wording of a refusal. -/
def Refusal.message : Refusal → String
  | missing => "No such file or directory"
  | notDirectory => "Not a directory"
  | denied => "Permission denied"
  | tooLong => "Argument list too long"

/-- The status that a shell gives for a program that cannot be started. -/
def Refusal.status : Refusal → Nat
  | missing | notDirectory => 127
  | denied | tooLong => 126

/-- The wording of a shell for a refusal. -/
def Refusal.shellMessage : Refusal → String
  | missing | notDirectory => "not found"
  | refusal => refusal.message

/-- What starts a program by its name and its arguments, and gives how it has ended. -/
abbrev Launch := List Bytes → Run (Except Refusal Ending)

end ConfigTemplate.Shell
