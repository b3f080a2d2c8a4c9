import ConfigTemplate.Failure
import ConfigTemplate.Log.Moment
import ConfigTemplate.Log.Template
import ConfigTemplate.Settings.Basic

/-!
# Where the log goes

The log records of the program go to a console and to a file, as settings ask for. A record passes
if its level reaches that of the output. The console has lines of its own or lines by a template; a
file has a moment before each line. Warnings that nothing takes are shown as they are on the
console, and so are those of other programs.
-/

namespace ConfigTemplate.Log

/-- How the lines of a plain console look. -/
inductive Lines where
  | usual
  | template (t : Template)
  deriving Repr

/-- A console for log records. -/
inductive Console where
  /-- One with styled output. -/
  | rich
  /-- One with plain lines. -/
  | plain (lines : Lines)
  deriving Repr

/-- A log file with the way in which it was opened. -/
structure LogFile where
  location : Location
  opening : Files.Opening
  deriving Repr

/-- Where log records go. -/
structure Output where
  level : Level
  console : Option Console
  file : Option LogFile
  deriving Repr

/-- The level of a log file; everything that passes the output is written. -/
def fileLevel : Level := Level.debug

/-- The name of the logger that all loggers of the program lie below. -/
def programLogger : String := "jresolve"

/-- Whether a logger is one of the program. -/
def isOwn (logger : String) : Bool :=
  logger = programLogger || (programLogger ++ ".").isPrefixOf logger

/-- A character in upper case, as far as the names of levels go. The dotless i is an i. -/
def upperCase (c : Char) : Char := if c = 'ı' then 'I' else c.toUpper

/-- The level that a value of the settings gives: a number, or a name in any case. Anything else
gives the usual level. -/
def Level.ofValue : Yaml.Value → Level
  | .int n => n
  | .bool b => if b then 1 else 0
  | .str name => (ofName? (name.map upperCase)).getD warning
  | _ => warning

namespace Output

/-- The level that a record has to reach. Where none is set, it is the usual one. -/
def threshold (output : Output) : Level := if output.level = 0 then .warning else output.level

/-- Whether a record passes. Only positive levels do. -/
def passes (output : Output) (record : Record) : Bool :=
  0 < record.level &&
    (if isOwn record.logger then output.threshold else .warning) ≤ record.level

/-- Whether something takes the records of a logger. -/
def isTaken (output : Output) (logger : String) : Bool :=
  isOwn logger && (output.console.isSome || output.file.isSome)

/-- The line of a record on a plain console: an error tells where it came from. -/
def usualLine (o : Occurrence) : String :=
  let level := o.record.level
  if Level.error ≤ level && o.path ≠ "" then
    s!"{level.name}: {(Location.ofText o.path).name}:{o.line} - {o.record.message}"
  else s!"{level.name}: {o.record.message}"

/-- The line of a record in a file. -/
def fileLine (o : Occurrence) : String :=
  let level := (Filling.mk ['-'] 8 none).apply o.record.level.name
  s!"{momentText o.moment} [{level}] {o.record.logger}: {o.record.message}"

/-- The line of a record on a plain console, if it has one. -/
def consoleLine? (output : Output) (lines : Lines) (o : Occurrence) : Option String :=
  if !output.passes o.record then none
  else if !output.isTaken o.record.logger then
    if Level.warning ≤ o.record.level then some o.record.message else none
  else if o.record.level < output.level then none
  else
    match lines with
    | .usual => some (usualLine o)
    | .template template => template.line? o

/-- Lines, each with a line break. -/
def lines (texts : List String) : String := String.join (texts.map (· ++ "\n"))

/-- What a plain console shows of some records. -/
def consoleText (output : Output) (occurrences : List Occurrence) : String :=
  match output.console with
  | some (.plain style) => lines (occurrences.filterMap (output.consoleLine? style))
  | _ => ""

/-- What is written to a log file of some records. -/
def fileText (output : Output) (occurrences : List Occurrence) : String :=
  lines ((occurrences.filter fun o =>
    isOwn o.record.logger && output.passes o.record && fileLevel ≤ o.record.level &&
      hasCalendarDay o.moment).map fileLine)

/-- The files after some records were written, after others that were written before. -/
def written (output : Output) (files : Files) (before occurrences : List Occurrence) : Files :=
  match output.file with
  | none => files
  | some file =>
    let bytes (occurrences : List Occurrence) := Text.toBytes (output.fileText occurrences)
    let result :=
      files.writeOpened file.location file.opening (bytes before).length (bytes occurrences)
    result.toOption.getD files

/-- Open a log file, along with the directories around it. -/
def prepareFile (files : Files) (location : Location) (mode : Yaml.Value) :
    Except Mishap (LogFile × Files) :=
  match files.makeDirectory location.parent with
  | .error (fault, outer) => .error (.file fault outer.text)
  | .ok files =>
    match mode with
    | .str letters =>
      match Files.Opening.ofText letters with
      | .error fault => .error (.log (.mode fault))
      | .ok opening =>
        match files.opened location opening with
        | .error fault => .error (.file fault location.text)
        | .ok files => .ok (⟨location, opening⟩, files)
    | .seq _ | .map _ | .set _ | .again _ => .error (.log (.modeNotText mode.typeName true))
    | value => .error (.log (.modeNotText value.typeName false))

/-- The value of an option, or a default where the option is not there. -/
def option (options : Yaml.Mapping) (name : String) (default : Yaml.Value) : Yaml.Value :=
  (Yaml.Mapping.get? (.str name) options).getD default

/-- The lines of a plain console that options ask for. A template without any field is refused. -/
def linesOf (options : Yaml.Mapping) : Except Fault Lines :=
  match option options "format" .null with
  | .str "" => .ok .usual
  | .str text =>
    if Template.hasField text.toList then .ok (.template (.ofText text))
    else .error (.templateWithoutField text)
  | value => if value.isTruthy then .error (.templateNotText value.typeName) else .ok .usual

/-- The console that options ask for. -/
def consoleOf (options : Yaml.Mapping) : Except Fault (Option Console) :=
  if (option options "console_enabled" (.bool true)).isTruthy then
    match option options "console_type" (.str "rich") with
    | .str "rich" => .ok (some .rich)
    | _ => (linesOf options).map fun lines => some (.plain lines)
  else .ok none

/-- The log file that options ask for, opened. -/
def fileOf (files : Files) (options : Yaml.Mapping) : Except Mishap (Option LogFile × Files) :=
  match option options "file" .null with
  | .str "" => .ok (none, files)
  | .str text =>
    if text.contains '\x00' then .error .nullCharacter
    else
      (prepareFile files (.ofText text) (option options "file_mode" (.str "a"))).map
        fun (file, files) => (some file, files)
  | value =>
    if value.isTruthy then .error (.log (.fileNotText value.typeName)) else .ok (none, files)

/-- The output that options ask for, with its file opened. -/
def ofOptions (files : Files) (options : Yaml.Mapping) : Except Mishap (Output × Files) :=
  match consoleOf options with
  | .error fault => .error (.log fault)
  | .ok console =>
    match fileOf files options with
    | .error mishap => .error mishap
    | .ok (file, files) =>
      .ok (⟨Level.ofValue (option options "level" (.int Level.warning)), console, file⟩, files)

/-- The output that the logging section of settings asks for. -/
def ofSettings (files : Files) (settings : Settings) : Except Mishap (Output × Files) :=
  let asked := settings.get "logging" (.map [])
  if !asked.isTruthy then ofOptions files []
  else
    match asked.mapping? with
    | some options => ofOptions files options
    | none => .error (.log (.sectionNotMapping asked.typeName))

end Output

end ConfigTemplate.Log
