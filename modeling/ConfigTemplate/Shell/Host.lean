import ConfigTemplate.Session.Setup
import ConfigTemplate.Shell.Execute
import ConfigTemplate.Text.Blank

/-!
# Shells as hosts

A host that runs commands by a shell. The shell is a program among the files; its output is read as
text with line feeds alone, and the line feeds at its end are cut. A status other than zero is a
failure, and so is a shell that cannot be started.
-/

namespace ConfigTemplate

open Text (Bytes)

/-- What a shell leaves behind: how it ended, what it wrote, and the files. -/
structure Shell.Report where
  ending : Shell.Ending
  output : Bytes
  complaints : Bytes
  files : Files

/-- How deep commands may lie in each other, and how many rounds a loop may have. -/
def Shell.fuel : Nat := 100000

/-- What is left behind by a process that has ended and began with some files. -/
def Shell.reportOf (files : Files) (ending : Shell.Ending) (after : Shell.State) : Shell.Report :=
  let written (number : Nat) : Bytes :=
    match after.channels[number]? with
    | some channel => ((channel.unread after.files).toOption).getD []
    | none => []
  ⟨ending, written 1, written 2, { after.files with home := files.home }⟩

/-- A shell to run commands with, and what they are given. -/
structure Shell.Launcher where
  executable : String
  files : Files
  environment : List (String × String)

namespace Shell.Launcher

/-- The shell that runs commands where none is named. -/
def usual : String := "/bin/sh"

/-- The wording of a refusal to start a program. -/
def refusalMessage (refusal : Refusal) (executable : String) : String :=
  let number : Nat :=
    match refusal with
    | .missing => 2
    | .notDirectory => 20
    | .denied => 13
    | .tooLong => 7
  s!"[Errno {number}] {refusal.message}: {Text.quoted executable}"

/-- The directories that are searched for a program without a path. -/
def searched (l : Launcher) : List Bytes :=
  let path := (Entries.get? "PATH" l.environment).getD "/bin:/usr/bin"
  pathDirectories (Text.toBytes path)

/-- Run a command by the program of a launcher, which is looked for in some directories if it has
no path. A name without a program is missing unless one of the directories refuses it otherwise. -/
def startIn (l : Launcher) (arguments : List Bytes) :
    List Bytes → Refusal → Run (Except Refusal Ending)
  | [], refusal => return .error refusal
  | directory :: rest, refusal => do
    let name := Text.toBytes l.executable
    let run := Execute.withFuel fuel
    let launch := Execute.launch run Execute.mostPrograms
    match ← Execute.startPath run launch Execute.mostScripts (within directory name) name
        arguments with
    | .ok ending =>
      Execute.performAll run (fun _ _ => true) Execute.mostJobs
      return .ok ending
    | .error other =>
      if l.executable.contains '/' then return .error other
      else
        startIn l arguments rest
          (if other = .missing || other = .notDirectory then refusal else other)

/-- What a command leaves behind. The program of the launcher is given the command after an option
that says so. -/
def report (l : Launcher) (command : String) : Except Refusal Report :=
  let environment := l.environment.map fun (name, value) => (name, Text.toBytes value)
  let arguments := [Text.toBytes "-c", Text.toBytes command]
  let directories := if l.executable.contains '/' then [[]] else l.searched
  let start := State.start l.executable l.files environment
  match (l.startIn arguments directories .missing).run start with
  | (.ok (.error refusal), _) => .error refusal
  | (.ok (.ok ending), after) => .ok (reportOf l.files ending after)
  | (.error _, after) => .ok (reportOf l.files (.exited 2) after)

/-- The text of some output. -/
def shown (output : Bytes) : String :=
  String.ofList (Text.unifyBreaks (Text.Encoding.decodeLenient .utf8 output))

/-- A text without the line feeds at its end. -/
def withoutEnd (text : String) : String :=
  String.ofList (Text.dropEndWhile (· = '\n') text.toList)

/-- The status of a shell that has ended; a signal counts below zero. -/
def status : Ending → Int
  | .exited status => status
  | .killed signal => -signal

/-- What becomes of a command. -/
def outcome (l : Launcher) (command : String) : Outcome :=
  if command.contains '\x00' || l.executable.contains '\x00' then .broken .nullCharacter
  else
    match l.report command with
    | .error refusal => .failed 127 (refusalMessage refusal l.executable)
    | .ok report =>
      let status := status report.ending
      if status = 0 then .output (withoutEnd (shown report.output))
      else .failed status (shown report.complaints)

/-- A launcher whose files are as a command leaves them. -/
def after (l : Launcher) (command : String) : Launcher :=
  if command.contains '\x00' || l.executable.contains '\x00' then l
  else
    match l.report command with
    | .error _ => l
    | .ok report => { l with files := report.files }

/-- A host that runs commands. -/
def host (l : Launcher) : Host where
  run before command := (before.foldl after l).outcome command
  envVar? name := Entries.get? name l.environment
  announces := true

end Shell.Launcher

end ConfigTemplate
