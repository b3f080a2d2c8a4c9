import ConfigTemplate.Json.Reader
import ConfigTemplate.Path.Basic

/-!
# Documents

A document is a JSON value whose root is an object or an array. It is read from text or from
bytes; bytes tell their encoding themselves and may begin with a byte order mark, text may not. A
fault tells why bytes or text are no document, why a document cannot be flattened, or why a value
cannot be written at a path.
-/

namespace ConfigTemplate

/-- A document: its root is an object or an array, and no object in it has a key twice. -/
structure Document where
  value : Json
  container : value.isContainer = true
  distinct : value.KeysDistinct

instance : Coe Document Json := ⟨Document.value⟩

namespace Document

/-- What is wrong with a document. -/
inductive Fault where
  /-- The text is not JSON; the line and the column count from one. -/
  | notJson (line column : Nat) (problem : Json.Problem)
  /-- The text has an integer with too many digits. -/
  | digits (excess : Decimal.Excess)
  /-- The bytes are no text. -/
  | notText (fault : Text.Encoding.Fault)
  /-- The root is neither an object nor an array. -/
  | scalarRoot (typeName : String)
  /-- An object at a path has a key that paths cannot hold. -/
  | unaddressableKey (path key : String)
  /-- An index meets something else than an array. -/
  | indexOutsideArray (index : Int) (place : SignedPath)
  /-- A field name meets something else than an object. -/
  | nameOutsideObject (name : String) (place : SignedPath)
  /-- There is no such file. -/
  | missingFile (path : String)
  /-- The file is a directory. -/
  | isDirectory (path : String)
  /-- Another fault, given by its wording. -/
  | stated (message : String)
  deriving Repr

namespace Fault

/-- The wording of a fault. -/
def message : Fault → String
  | notJson line column problem =>
    s!"Error parsing JSON at line {line}, column {column}:\n  {problem.message}"
  | digits excess => excess.message
  | notText fault => s!"Document is not valid UTF-8 text: {fault.message}"
  | scalarRoot typeName => s!"Document root must be a JSON object or array, got {typeName}"
  | unaddressableKey path key =>
    s!"Object key {Text.quoted key} at '{path}' cannot be addressed by a path\n" ++
      "  Suggestion: Use non-empty keys without '.', '[' or ']'"
  | indexOutsideArray index place => s!"Index [{index}] applied to a non-array at {place.shown}"
  | nameOutsideObject name place =>
    s!"Field '{name}' applied to a non-object at {place.shown}"
  | missingFile path => s!"Document not found: {path}"
  | isDirectory path => s!"Document path is a directory: {path}"
  | stated message => message

/-- The particulars of a fault, by name. -/
def details : Fault → List (String × Json)
  | notJson line column _ => [("line", .int line), ("column", .int column)]
  | unaddressableKey path key => [("path", .str path), ("key", .str key)]
  | missingFile path | isDirectory path => [("path", .str path)]
  | _ => []

end Fault

/-! ### Loading documents -/

/-- What a document comes from: bytes, a text, or a value that is there already. A value that is
a string is in turn the text of a document. -/
inductive Source where
  | bytes (content : Text.Bytes)
  | text (content : String)
  | value (content : Json)

/-- A fault of a JSON text, with its line and column. -/
def jsonFault (text : List Char) (fault : Json.Fault) : Fault :=
  match fault.problem with
  | .digits excess => .digits excess
  | problem =>
    let (line, column) := Json.lineColumn text fault.position
    .notJson line column problem

/-- A value as a document. -/
def ofRoot (value : Json) : Except Fault Json :=
  if value.isContainer then .ok value else .error (.scalarRoot value.typeName)

/-- A document from its text. -/
def ofText (text : String) : Except Fault Json :=
  match Json.ofText text with
  | .error fault => .error (jsonFault text.toList fault)
  | .ok value => ofRoot value

/-- A document from its bytes. -/
def ofBytes (bytes : Text.Bytes) : Except Fault Json :=
  match Text.Encoding.decodeDocument bytes with
  | .error fault => .error (.notText fault)
  | .ok chars =>
    match Json.ofChars chars with
    | .error fault => .error (jsonFault chars fault)
    | .ok value => ofRoot value

/-- A document from whatever it comes from. -/
def load : Source → Except Fault Json
  | .bytes content => ofBytes content
  | .text content => ofText content
  | .value (.str content) => ofText content
  | .value content => ofRoot content

end Document

end ConfigTemplate
