import ConfigTemplate.Yaml.Mapping

/-!
# Settings

Settings are a mapping of sections. A key with dots names a value inside the sections. A value that
is null counts as not set where a default takes its place, but it is there.

Settings come in layers. A later layer takes precedence path by path: where both layers have a
mapping the two are merged, elsewhere the value of the later layer replaces that of the earlier
one.
-/

namespace ConfigTemplate

/-- Settings by section. -/
structure Settings where
  data : Yaml.Mapping

namespace Settings

/-- The names between the dots of a key. -/
def names (key : String) : List String := (key.toList.splitOn '.').map String.ofList

/-- Whether there is a value at names inside a value. -/
def hasAt : List String → Yaml.Value → Bool
  | [], _ => true
  | name :: rest, .map entries =>
    match Yaml.Mapping.get? (.str name) entries with
    | some value => hasAt rest value
    | none => false
  | _ :: _, _ => false

/-- The value at names inside a value. There is none as soon as a value on the way is null. -/
def setAt? : List String → Yaml.Value → Option Yaml.Value
  | [], value => some value
  | name :: rest, .map entries =>
    match Yaml.Mapping.get? (.str name) entries with
    | none | some .null => none
    | some value => setAt? rest value
  | _ :: _, _ => none

/-- Whether there is a value of a key. -/
def contains (settings : Settings) (key : String) : Bool :=
  hasAt (names key) (.map settings.data)

/-- The value of a key unless it is null. -/
def set? (settings : Settings) (key : String) : Option Yaml.Value :=
  setAt? (names key) (.map settings.data)

/-- The value of a key, or a default where none is set. -/
def get (settings : Settings) (key : String) (default : Yaml.Value) : Yaml.Value :=
  (settings.set? key).getD default

/-- The value of a key, null included, where there is one. -/
def item? (settings : Settings) (key : String) : Option Yaml.Value :=
  if settings.contains key then some (settings.get key .null) else none

/-- The names of the sections. -/
def sections (settings : Settings) : List Yaml.Key := settings.data.map (·.1)

/-- The settings that hold where nothing else is said. -/
def standard : Settings :=
  ⟨[(.str "resolver",
      .map [(.str "unique_match", .bool true), (.str "external", .bool true),
        (.str "max_substitutions", .int 1000)]),
    (.str "shell", .map [(.str "executable", .null)]),
    (.str "logging",
      .map [(.str "level", .str "WARNING"), (.str "file", .null),
        (.str "console_type", .str "rich")]),
    (.str "output", .map [(.str "indent", .int 2)])]⟩

/-- Whether a shorthand may match one key only. -/
def uniqueMatch (settings : Settings) : Bool :=
  (settings.get "resolver.unique_match" (.bool true)).isTruthy

/-- Whether commands are run and variables are read. -/
def external (settings : Settings) : Bool :=
  (settings.get "resolver.external" (.bool true)).isTruthy

/-- The number of substitutions in one value. -/
def maxSubstitutions (settings : Settings) : Yaml.Value :=
  settings.get "resolver.max_substitutions" (.int 1000)

/-- The shell that runs commands; null for the usual one. -/
def shellExecutable (settings : Settings) : Yaml.Value := settings.get "shell.executable" .null

/-- The indentation of documents. -/
def indent (settings : Settings) : Yaml.Value := settings.get "output.indent" (.int 2)

theorem contains_iff {settings : Settings} {key : String} :
    settings.contains key = true ↔ ∃ value, settings.item? key = some value := by
  simp [item?]

/-! ### Layers -/

mutual

/-- A mapping with the entries of a later layer merged in one after the other. -/
def merge (base : Yaml.Mapping) : Yaml.Mapping → Yaml.Mapping
  | [] => base
  | (key, value) :: rest =>
    merge (Yaml.Mapping.put key (merged (Yaml.Mapping.get? key base) value) base) rest

/-- A value of a later layer, merged with the value of the earlier one. -/
def merged (base : Option Yaml.Value) : Yaml.Value → Yaml.Value
  | .map entries =>
    match base with
    | some (.map present) => .map (merge present entries)
    | _ => .map entries
  | value => value

end

/-- Settings with a later layer. -/
def overriddenBy (settings : Settings) (layer : Yaml.Mapping) : Settings :=
  ⟨merge settings.data layer⟩

@[simp] theorem merge_nil (base : Yaml.Mapping) : merge base [] = base := by simp [merge]

end Settings

end ConfigTemplate
