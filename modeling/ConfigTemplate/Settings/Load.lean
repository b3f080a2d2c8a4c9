import ConfigTemplate.Failure
import ConfigTemplate.Settings.Basic
import ConfigTemplate.Settings.Check
import ConfigTemplate.Settings.Linked
import ConfigTemplate.Text.Blank
import ConfigTemplate.Yaml.Load

/-!
# Loading settings

Settings have three layers: the standard settings, a settings file, and explicit overrides. The
file is a given one, or the one that an environment variable names, or the one in the working
directory, if there is one.
-/

namespace ConfigTemplate.Settings

/-- The environment variable that names the settings file. -/
def fileVariable : String := "JRESOLVE_CONFIG"

/-- The name of the settings file in the working directory. -/
def fileName : String := "jresolve.yaml"

/-- The location of the settings file. -/
def findFile (files : Files) (given fromEnvironment : Option String) : Option Location :=
  match given with
  | some text => some (.ofText text)
  | none =>
    match fromEnvironment.filter (· != "") with
    | some text => some (.ofText text)
    | none =>
      let candidate := Location.ofText fileName
      if files.isFile candidate then some candidate else none

/-- Where a fault of a text file lies. A character that the end of the file cuts off is read by
itself, so positions count from its beginning. -/
def textFault (fault : Text.Encoding.Fault) : Text.Encoding.Fault :=
  if fault.reason = .endOfData then { fault with position := 0 } else fault

/-- A layer of settings in a file: the value of the file, and the entries of its root. -/
structure Layer where
  file : Yaml.Linked
  entries : List (Yaml.Key × Yaml.Slot)

/-- No layer at all. -/
def Layer.none : Layer := ⟨⟨#[], .own .null⟩, []⟩

/-- The layer that the value of a settings file is; an empty one is no layer at all. -/
def Layer.ofFile (file : Yaml.Linked) : Except Fault Layer :=
  if !file.isTruthy file.root then .ok .none
  else
    match file.root with
    | .own value => .error (.notMapping value.typeName)
    | .shared number =>
      match file.entries? number with
      | some entries => .ok ⟨file, entries⟩
      | _ => .error (.notMapping (file.container number).typeName)

/-- The layer that the text of a settings file is. -/
def Layer.ofText (fileName : String) (text : List Char) : Except Halt Layer :=
  match Yaml.Linked.ofText (Text.unifyBreaks text) with
  | .error .malformed => .error (.failure (.configuration (.notYaml fileName)))
  | .error (.scalar fault) => .error (.mishap (.scalar fault))
  | .ok file => (Layer.ofFile file).mapError fun fault => .failure (.configuration fault)

/-- The layer in a settings file. -/
def readFile (files : Files) (location : Location) : Except Halt Layer :=
  match files.find location with
  | .error .nameTooLong => .error (.mishap (.file .nameTooLong location.text))
  | .error _ => .error (.failure (.configuration (.missingFile location.text)))
  | .ok (.file bytes) =>
    match Text.Encoding.decodeFrom .utf8 0 bytes with
    | .error fault => .error (.mishap (.notText (textFault fault)))
    | .ok text => Layer.ofText location.name text
  | .ok .program => .ok .none
  | .ok _ => .error (.failure (.configuration (.notAFile location.text)))

/-- Check settings. The message about violations is put together from their lines, and a line that
would have to show too many digits breaks it off. -/
def validate (settings : Settings) : Except Halt Unit :=
  if settings.violations.isEmpty then .ok ()
  else if settings.violations.any Violation.isTooLong then .error (.mishap (.digits .written))
  else .error (.failure (.configuration (.invalid settings.violations)))

theorem validate_eq_ok_iff {settings : Settings} :
    settings.validate = .ok () ↔ settings.violations = [] := by
  rw [validate, ← List.isEmpty_iff]
  split
  next none => exact iff_of_true rfl none
  next some => split <;> exact iff_of_false nofun some

/-- Settings that obey the rules. -/
def checked (settings : Settings) : Except Halt Settings :=
  match settings.validate with
  | .ok () => .ok settings
  | .error halt => .error halt

/-- The standard settings with a layer from a file and with overrides over it. Unless places in the
file share a container, each layer is merged into the one below it. -/
def layered (layer : Layer) (overrides : Yaml.Mapping) : Settings :=
  if layer.file.isTree then
    (standard.overriddenBy ((layer.file.value.mapping?).getD [])).overriddenBy overrides
  else Linked.layered layer.file layer.entries overrides

/-- The settings out of a settings file, if there is one, and overrides. -/
def load (files : Files) (given fromEnvironment : Option String) (overrides : Yaml.Mapping) :
    Except Halt Settings :=
  match findFile files given fromEnvironment with
  | none => (standard.overriddenBy overrides).checked
  | some location =>
    match readFile files location with
    | .error halt => .error halt
    | .ok layer => (layered layer overrides).checked

end ConfigTemplate.Settings
