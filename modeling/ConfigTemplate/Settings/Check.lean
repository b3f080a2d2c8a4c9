import ConfigTemplate.Settings.Basic
import ConfigTemplate.Yaml.Shown

/-!
# Checking settings

The rules that settings have to obey. The sections have to be mappings; only when they are, the
values in them are checked. Settings that pass have values of the types that their uses need. Each
rule that a value violates is a violation of its own, and the message of invalid settings has one
line for each.
-/

namespace ConfigTemplate.Settings

/-! ### Faults of settings -/

/-- A rule of the settings that a value violates. -/
inductive Violation where
  | notMapping (key : String) (value : Yaml.Value)
  | notTruthValue (key : String) (value : Yaml.Value)
  | notPositive (key : String) (value : Yaml.Value)
  | notText (key : String) (value : Yaml.Value)
  | notNatural (key : String) (value : Yaml.Value)
  | notConsole (key : String) (value : Yaml.Value)
  deriving Repr

/-- The line that a violation has in a message. -/
def Violation.line : Violation → String
  | notMapping key value => s!"Setting '{key}' must be a mapping, got {value.typeName}"
  | notTruthValue key value => s!"Setting '{key}' must be true or false, got {value.shown}"
  | notPositive key value => s!"Setting '{key}' must be a positive integer, got {value.shown}"
  | notText key value => s!"Setting '{key}' must be a string, got {value.shown}"
  | notNatural key value => s!"Setting '{key}' must be a non-negative integer, got {value.shown}"
  | notConsole key value => s!"Setting '{key}' must be 'rich' or 'plain', got {value.shown}"

/-- Whether the line of a violation would have to show an integer with too many digits. -/
def Violation.isTooLong : Violation → Bool
  | notMapping .. => false
  | notTruthValue _ value | notPositive _ value | notText _ value | notNatural _ value
  | notConsole _ value => value.isTooLong

/-- Why settings cannot be loaded. -/
inductive Fault where
  | missingFile (path : String)
  | notAFile (path : String)
  | notYaml (fileName : String)
  | notMapping (typeName : String)
  | invalid (violations : List Violation)
  /-- Another fault, given by its wording. -/
  | stated (message : String)
  deriving Repr

/-- The wording of a fault. -/
def Fault.message : Fault → String
  | missingFile path =>
    s!"Settings file not found: {path}\n" ++
      "  Suggestion: Check the --config path or the JRESOLVE_CONFIG variable"
  | notAFile path => s!"Settings path is not a file: {path}"
  | notYaml fileName => s!"Error parsing {fileName}"
  | notMapping typeName => s!"Settings file must contain a mapping, got {typeName}"
  | invalid violations => String.intercalate "\n" (violations.map Violation.line)
  | stated message => message

/-! ### Rules -/

open Yaml (Value)

/-- The names of the documented sections. -/
def documented : List String := ["resolver", "shell", "logging", "output"]

/-- A positive integer. -/
def isPositive : Value → Bool
  | .int n => 1 ≤ n
  | _ => false

/-- An integer that is not negative. -/
def isNatural : Value → Bool
  | .int n => 0 ≤ n
  | _ => false

/-- A truth value. -/
def isTruthValue : Value → Bool
  | .bool _ => true
  | _ => false

/-- A string. -/
def isText : Value → Bool
  | .str _ => true
  | _ => false

/-- The name of a console. -/
def isConsole : Value → Bool
  | .str name => name = "rich" || name = "plain"
  | _ => false

/-- The sections that are neither mappings nor null. -/
def sectionViolations (settings : Settings) : List Violation :=
  documented.filterMap fun name =>
    match Yaml.Mapping.get? (.str name) settings.data with
    | none | some .null | some (.map _) => none
    | some value => some (.notMapping name value)

/-- The violation of a rule by the value of a key, unless it is null. -/
def checkSet (settings : Settings) (key : String) (rule : Value → Bool)
    (violation : String → Value → Violation) : List Violation :=
  match settings.set? key with
  | some value => if rule value then [] else [violation key value]
  | none => []

/-- The violation of a rule by the value of a key, where null violates it, too. -/
def checkPresent (settings : Settings) (key : String) (rule : Value → Bool)
    (violation : String → Value → Violation) : List Violation :=
  let value := settings.get key .null
  if rule value then [] else [violation key value]

/-- The values in the sections that violate a rule. -/
def valueViolations (settings : Settings) : List Violation :=
  settings.checkPresent "resolver.unique_match" isTruthValue .notTruthValue ++
    settings.checkPresent "resolver.external" isTruthValue .notTruthValue ++
    settings.checkSet "resolver.max_substitutions" isPositive .notPositive ++
    settings.checkSet "shell.executable" isText .notText ++
    settings.checkSet "output.indent" isNatural .notNatural ++
    settings.checkSet "logging.console_type" isConsole .notConsole

/-- The rules that settings violate: those about sections, or else those about values. -/
def violations (settings : Settings) : List Violation :=
  if settings.sectionViolations.isEmpty then settings.valueViolations
  else settings.sectionViolations

end ConfigTemplate.Settings
