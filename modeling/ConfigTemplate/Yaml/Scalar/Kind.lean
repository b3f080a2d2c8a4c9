import ConfigTemplate.Text.Lowercase
import ConfigTemplate.Yaml.Scalar.Binary
import ConfigTemplate.Yaml.Scalar.Timestamp

/-!
# Types of scalars

A scalar without quotes and without a tag has the type that its text has the shape of: a truth
value, a number, null, a day or a time, one of the two marks of mappings, and otherwise a string. A
line break at the end of the text does not change its shape.
-/

namespace ConfigTemplate.Yaml.Scalar

/-- The types that the text of a scalar may have. -/
inductive Kind where
  | null
  | bool
  | int
  | float
  | timestamp
  | binary
  | str
  /-- The mark of entries to take over from other mappings. -/
  | merge
  /-- The mark of the default entry of a mapping. -/
  | default
  /-- A character that begins aliases, anchors or tags. -/
  | indicator
  deriving DecidableEq, Repr

/-- The name of a type in tags. -/
def Kind.name : Kind → String
  | null => "null"
  | bool => "bool"
  | int => "int"
  | float => "float"
  | timestamp => "timestamp"
  | binary => "binary"
  | str => "str"
  | merge => "merge"
  | default => "value"
  | indicator => "yaml"

/-- The types of scalars. -/
def Kind.all : List Kind :=
  [null, bool, int, float, timestamp, binary, str, merge, default, indicator]

/-- The words for null. -/
def nullWords : List String := ["", "~", "null", "Null", "NULL"]

/-- The words for true and false, in lower case. -/
def truthWords : List (String × Bool) :=
  [("yes", true), ("no", false), ("true", true), ("false", false), ("on", true), ("off", false)]

/-- The ways to write a word: in lower case, capitalized, or in upper case. -/
def spellings (word : String) : List String := [word, word.capitalize, word.map Char.toUpper]

/-- Whether a text has the shape of a truth value. -/
def isTruthWord (text : String) : Bool :=
  truthWords.any fun (word, _) => (spellings word).contains text

/-- The type that a text has the shape of. -/
def Kind.ofText (text : String) : Kind :=
  let cs := withoutFinalBreak text.toList
  let text := String.ofList cs
  if isTruthWord text then bool
  else if isFloat cs then float
  else if isInteger cs then int
  else if text = "<<" then merge
  else if nullWords.contains text then null
  else if isTimestamp cs then timestamp
  else if text = "=" then default
  else if ["!", "&", "*"].contains text then indicator
  else str

/-- The truth value of a word in any case. -/
def truthValue (text : String) : Except Fault Value :=
  let word := Text.lowercase text
  match truthWords.find? fun entry => entry.1 = word with
  | some (_, b) => .ok (.bool b)
  | none => .error (.notTruthValue word)

end ConfigTemplate.Yaml.Scalar
