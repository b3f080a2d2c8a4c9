import ConfigTemplate.CommandLine.Request
import ConfigTemplate.Log.Output
import ConfigTemplate.Resolution
import ConfigTemplate.Shell.Host

/-!
# Running requests

What a run of the program does to its world. The world of a run is what the run is given: files,
environment variables, input, and a machine that runs commands. Commands may change files. A run
leaves traces: what it has written to its standard output, and the files. It is done, or it fails
for a cause that decides its status, and its traces remain.
-/

namespace ConfigTemplate.CommandLine

/-- What a run is given. -/
structure World where
  files : Files
  environment : List (String × String)
  input : Text.Bytes
  /-- The moment of the run, in seconds since the beginning of 1970. -/
  moment : Int
  /-- What becomes of a command that a shell runs, beginning with files, after other commands. -/
  outcome : String → Files → List String → String → Outcome
  /-- The files after a shell has run commands, beginning with files. -/
  filesAfter : String → Files → List String → Files

namespace World

/-- A world whose commands are run by shells. -/
def ofShells (files : Files) (environment : List (String × String)) (input : Text.Bytes)
    (moment : Int) : World where
  files := files
  environment := environment
  input := input
  moment := moment
  outcome shell files before command :=
    (Shell.Launcher.host ⟨shell, files, environment⟩).run before command
  filesAfter shell files commands :=
    (commands.foldl Shell.Launcher.after ⟨shell, files, environment⟩).files

/-- The value of an environment variable. -/
def envVar? (world : World) (name : String) : Option String :=
  Entries.get? name world.environment

/-- The host of a session whose commands a shell runs, beginning with files. -/
def host (world : World) (shell : String) (files : Files) : Host where
  run := world.outcome shell files
  envVar? := world.envVar?
  announces := true

end World

/-! ### Runs -/

/-- Why a run fails. -/
inductive Cause where
  | usage (fault : UsageFault)
  | halt (halt : Halt)
  deriving Repr

/-- The status of a run that fails. -/
def Cause.status : Cause → Nat
  | usage _ => 2
  | halt (.failure failure) => failure.exitCode
  | halt (.mishap _) => 1

theorem Cause.status_ne_zero (cause : Cause) : cause.status ≠ 0 := by
  cases cause with
  | usage => simp [status]
  | halt halt =>
    cases halt with
    | mishap => simp [status]
    | failure failure =>
      simp only [status, Failure.exitCode]
      cases failure.kind <;> decide

/-- What is reported of a failure. -/
def Cause.report? : Cause → Option String
  | halt (.failure failure) => some failure.message
  | _ => none

/-- The mishap that breaks a run down. -/
def Cause.mishap? : Cause → Option Mishap
  | halt (.mishap mishap) => some mishap
  | _ => none

/-- What a run has written so far: to its standard output, and to files. -/
structure Traces where
  output : String
  files : Files

/-- After a text was written to the standard output. -/
def Traces.printed (traces : Traces) (text : String) : Traces :=
  { traces with output := traces.output ++ text }

/-- What there is when a run begins. -/
def World.begun (world : World) : Traces := ⟨"", world.files⟩

/-- How a run ends: what it has written, and why it fails, if it does. -/
structure Ending extends Traces where
  cause? : Option Cause

namespace Ending

/-- A run that is done. -/
def done (traces : Traces) : Ending := { traces with cause? := none }

/-- A run that fails. -/
def failed (cause : Cause) (traces : Traces) : Ending := { traces with cause? := some cause }

/-- A run that is stopped. -/
def stopped (halt : Halt) (traces : Traces) : Ending := failed (.halt halt) traces

/-- The status of a run. -/
def status (ending : Ending) : Nat := (ending.cause?.map Cause.status).getD 0

/-- A run has the status zero if and only if it does not fail. -/
theorem status_eq_zero_iff {ending : Ending} : ending.status = 0 ↔ ending.cause? = none := by
  rw [status]
  cases ending.cause? with
  | none => simp
  | some cause => simp [cause.status_ne_zero]

end Ending

/-- A document that comes from the input of a run. -/
def documentOfInput (input : Text.Bytes) : Except Halt Json :=
  match Text.Encoding.decodeFrom .utf8 0 input with
  | .error fault => .error (.mishap (.notText fault))
  | .ok chars =>
    (Document.ofText (String.ofList (Text.unifyBreaks chars))).mapError Document.Fault.halt

/-- The document of a name: in a file, or in the input for a hyphen. -/
def readDocument (files : Files) (input : Text.Bytes) (name : String) : Except Halt Json :=
  if name = "-" then documentOfInput input
  else
    let location := Location.ofText name
    match files.find location with
    | .ok (.file _) | .ok .program => Document.ofFile files location
    | .error .nameTooLong => .error (.mishap (.file .nameTooLong location.text))
    | _ => .error (.failure (.document (.missingFile location.text)))

/-- A section of settings with the members that are asked for; none without any. -/
def overridesIn (name : String) (members : List (Bool × String × Yaml.Value)) : Yaml.Mapping :=
  let chosen := members.filterMap fun (isAsked, key, value) =>
    if isAsked then some (.str key, value) else none
  if chosen.isEmpty then [] else [(.str name, .map chosen)]

/-- The settings that a manner asks for. -/
def Manner.overrides (m : Manner) : Yaml.Mapping :=
  overridesIn "resolver"
    [(m.dryRun, "external", .bool false), (m.allowAmbiguous, "unique_match", .bool false)] ++
  overridesIn "logging"
    [(m.debug, "level", .str "DEBUG"), (m.verbose && !m.debug, "level", .str "INFO")]

/-- What a run works with: settings, the log, and what was written by the time the log was open. -/
structure Bench where
  settings : Settings
  log : Log.Output
  traces : Traces

namespace Bench

/-- Load settings and open the log. -/
def prepare (world : World) (manner : Manner) : Except Halt Bench :=
  match Settings.load world.files manner.config (world.envVar? Settings.fileVariable)
      manner.overrides with
  | .error halt => .error halt
  | .ok settings =>
    match Log.Output.ofSettings world.files settings with
    | .error mishap => .error (.mishap mishap)
    | .ok (log, files) => .ok ⟨settings, log, { world.begun with files }⟩

/-- The files after the log was opened. -/
def files (bench : Bench) : Files := bench.traces.files

/-- The shell that runs commands. -/
def shell (bench : Bench) : String :=
  match bench.settings.shellExecutable with
  | .str name => name
  | _ => Shell.Launcher.usual

/-- The setup of sessions. -/
def setup (bench : Bench) (world : World) : Setup :=
  ⟨bench.settings.options, world.host bench.shell bench.files, .standard⟩

/-- The files with the records of a journal in the log, after those of an earlier one. -/
def logged (bench : Bench) (world : World) (files : Files) (earlier journal : Journal) : Files :=
  let occurrences (journal : Journal) : List Log.Occurrence :=
    journal.records.map fun record => ⟨record, "", 0, world.moment⟩
  bench.log.written files (occurrences earlier) (occurrences journal)

/-- The files after the commands of a resolution, with its records in the log. -/
def filesAfter (bench : Bench) (world : World) (journal : Journal) : Files :=
  bench.logged world (world.filesAfter bench.shell bench.files journal.commands) [] journal

/-- What there is after a resolution. -/
def after (bench : Bench) (world : World) (journal : Journal) : Traces :=
  { bench.traces with files := bench.filesAfter world journal }

/-- A run whose resolution is stopped after some events. -/
def stopped (bench : Bench) (world : World) (journal : Journal) (halt : Halt) : Ending :=
  let journal :=
    match halt with
    | .failure _ => .gaveUp :: journal
    | .mishap _ => journal
  .stopped halt (bench.after world journal)

/-- The indentation of documents. -/
def indent (bench : Bench) : Int :=
  match bench.settings.indent with
  | .int n => n
  | _ => 2

end Bench

/-- The number of blanks from which on there is no memory for them. -/
def indentMemory : Nat := Nat.pow 2 47

/-- An indentation that a text can have. -/
def checkIndent (indent : Int) : Except Mishap Int :=
  if indent < -(Int.pow 2 63) || Int.pow 2 63 ≤ indent then .error .indentRange
  else if (indentMemory : Int) ≤ indent then .error .memory
  else .ok indent

/-- The text of a document with a line break. -/
def shownDocument (indent : Int) (document : Json) : String :=
  document.text (.indented indent) ++ "\n"

/-- Print a document, or write it to a file, after it is resolved. -/
def deliver (world : World) (bench : Bench) (traces : Traces) (journal : Journal)
    (target : Option String) (text : String) : Ending :=
  match target with
  | none => .done (traces.printed text)
  | some name =>
    let location := Location.ofText name
    match traces.files.write location (Text.toBytes text) with
    | .error fault => .stopped (.mishap (.file fault location.text)) traces
    | .ok files =>
      .done { traces with files := bench.logged world files journal [.written location.text] }

/-- Resolve a document. -/
def runResolve (world : World) (name : String) (manner : Manner) (target : Option String)
    (indent : Option Int) : Ending :=
  match Bench.prepare world manner with
  | .error halt => .stopped halt world.begun
  | .ok bench =>
    match readDocument bench.files world.input name with
    | .error halt => .stopped halt bench.traces
    | .ok document =>
      let resolution := Resolution.ofDocument (bench.setup world) manner.debug document
      match resolution.result with
      | .error halt => bench.stopped world resolution.journal halt
      | .ok resolved =>
        let traces := bench.after world resolution.journal
        match checkIndent (indent.getD bench.indent) with
        | .error mishap => .stopped (.mishap mishap) traces
        | .ok indent =>
          deliver world bench traces resolution.journal target (shownDocument indent resolved)

/-- Resolve a single key. A string is shown as it is, another value by its JSON text. -/
def runGet (world : World) (name key : String) (manner : Manner) : Ending :=
  match Bench.prepare world manner with
  | .error halt => .stopped halt world.begun
  | .ok bench =>
    match readDocument bench.files world.input name with
    | .error halt => .stopped halt bench.traces
    | .ok document =>
      let resolution := Resolution.ofKey (bench.setup world) (.value document) key
      match resolution.result with
      | .error halt => bench.stopped world resolution.journal halt
      | .ok value =>
        .done ((bench.after world resolution.journal).printed (value.spliced ++ "\n"))

/-- Show the flat form of a document. -/
def runFlatten (world : World) (name : String) (pendingOnly : Bool) : Ending :=
  match readDocument world.files world.input name with
  | .error halt => .stopped halt world.begun
  | .ok document =>
    match Flat.ofDocument document with
    | .error fault => .stopped (.failure (.document fault)) world.begun
    | .ok flat =>
      let shown :=
        if pendingOnly then
          flat.entries.filter fun (_, value) => Session.isPending Placeholder.Kind.all value
        else flat.entries
      .done (world.begun.printed (shownDocument 2 (.obj shown)))

/-- Run a command. -/
def run (world : World) : Command → Ending
  | .resolve name manner target indent => runResolve world name manner target indent
  | .get name key manner => runGet world name key manner
  | .flatten name pendingOnly => runFlatten world name pendingOnly

/-- The name and the version of the program. -/
def versionText : String := "jresolve version 0.1.0\n"

/-- How the program is used. -/
def helpText : String :=
  String.intercalate "\n"
    ["Usage: jresolve [OPTIONS] COMMAND [ARGS]...", "",
      "Resolve placeholders in JSON configuration.", "",
      "Commands:",
      "  resolve FILE   Resolve placeholders in a JSON document",
      "  get FILE KEY   Resolve a single key of a JSON document",
      "  flatten FILE   Print the flattened path -> value map", ""]

/-- Run the program with arguments. -/
def runWords (world : World) (words : List String) : Ending :=
  match Request.ofWords words with
  | .error fault => .failed (.usage fault) world.begun
  | .ok .version => .done (world.begun.printed versionText)
  | .ok .help => .done (world.begun.printed helpText)
  | .ok (.run command) => run world command

end ConfigTemplate.CommandLine
