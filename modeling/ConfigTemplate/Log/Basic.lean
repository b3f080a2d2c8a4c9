import ConfigTemplate.Files.Opening

/-!
# Log records and settings

A log level is a number; the usual ones have names. A record has a level, the name of the logger
that it was given to, and a message. The log cannot be set up as some settings ask for.
-/

namespace ConfigTemplate.Log

/-- The level of a record. -/
abbrev Level := Int

namespace Level

def debug : Level := 10
def info : Level := 20
def warning : Level := 30
def error : Level := 40
def critical : Level := 50

/-- The levels that have a name. -/
def named : List (String × Level) :=
  [("DEBUG", debug), ("INFO", info), ("WARNING", warning), ("ERROR", error),
    ("CRITICAL", critical)]

/-- The level of a name. -/
def ofName? (name : String) : Option Level :=
  (named.find? fun entry => entry.1 = name).map (·.2)

/-- The name of a level. -/
def name (level : Level) : String :=
  if level = 0 then "NOTSET"
  else
    match named.find? fun entry => entry.2 = level with
    | some entry => entry.1
    | none => s!"Level {level}"

example : named.all (fun entry => ofName? entry.1 = some entry.2) = true := by decide

end Level

/-- A message with its level and the logger it was given to. -/
structure Record where
  level : Level
  logger : String
  message : String
  deriving DecidableEq, Repr

/-! ### Settings -/

/-- Why the log cannot be set up. -/
inductive Fault where
  /-- The section on the log is no mapping. -/
  | sectionNotMapping (typeName : String)
  /-- The template for lines is no text. -/
  | templateNotText (typeName : String)
  /-- The template for lines has no field. -/
  | templateWithoutField (text : String)
  /-- The name of the log file is no text. -/
  | fileNotText (typeName : String)
  /-- The way to open the log file is no text. `isContainer` tells whether it is a container. -/
  | modeNotText (typeName : String) (isContainer : Bool)
  /-- There is no such way to open the log file. -/
  | mode (fault : Files.Opening.Fault)
  deriving Repr

/-- The wording of a fault. -/
def Fault.message : Fault → String
  | sectionNotMapping typeName => s!"'{typeName}' object has no attribute 'get'"
  | templateNotText typeName => s!"expected string or bytes-like object, got '{typeName}'"
  | templateWithoutField text => s!"Invalid format '{text}' for '%' style"
  | fileNotText typeName => s!"expected str, bytes or os.PathLike object, not {typeName}"
  | modeNotText typeName isContainer =>
    if isContainer then s!"open() argument 'mode' must be str, not {typeName}"
    else s!"argument of type '{typeName}' is not iterable"
  | mode fault => fault.message

end ConfigTemplate.Log
