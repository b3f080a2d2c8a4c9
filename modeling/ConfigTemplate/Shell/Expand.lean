import ConfigTemplate.Shell.Number
import ConfigTemplate.Shell.Storage

/-!
# What words stand for

A word is expanded piece by piece: parameters give their values, sums their numbers and commands
their output. The result is divided into fields, and a field that is a pattern stands for the
files whose names match it.
-/

namespace ConfigTemplate.Shell

open Text (Bytes)
open Run (bytesOf textOf)

/-- What gives the output of commands. -/
abbrev OutputOf := List Command → Run Bytes

/-- Bytes that a parameter or an output gives. -/
def given (quoted : Bool) (bytes : Bytes) : List Glyph :=
  bytes.map fun b => if quoted then .quoted b else .found b

/-- Values as fields of their own. -/
def givenFields (quoted : Bool) : List Bytes → List Glyph
  | [] => []
  | [value] => (if quoted then [.mark] else []) ++ given quoted value
  | value :: rest =>
    (if quoted then [.mark] else []) ++ given quoted value ++ .gap :: givenFields quoted rest

/-- The separators of fields. -/
def separators : Run Bytes := do return (← Run.valueOf? "IFS").getD [32, 9, 10]

/-- The letters of options in the order in which they are shown. -/
def optionOrder : List Char := "pubaCEVvxsnmiIfe".toList

/-- The value of a parameter. -/
def parameter? (name : String) : Run (Option Bytes) := do
  let p ← Run.process
  let text (s : String) : Option Bytes := some (bytesOf s)
  match name with
  | "?" => return text (toString p.status)
  | "$" => return text (toString p.number)
  | "#" => return text (toString p.arguments.length)
  | "-" => return text (String.ofList (optionOrder.filter p.options.contains))
  | "0" => return text p.name
  | "!" => return p.lastJob.map fun n => bytesOf (toString n)
  | "@" | "*" =>
    let between := ((← separators).take 1)
    return some (between.intercalate p.arguments)
  | _ =>
    match name.toNat? with
    | some n => return p.arguments[n - 1]?
    | none => Run.valueOf? name

/-- The glyphs of a parameter's value. -/
def parameterGlyphs (name : String) (quoted : Bool) (value : Bytes) : Run (List Glyph) := do
  if name = "@" || (name = "*" && !quoted) then
    return givenFields quoted (← Run.process).arguments
  else return given quoted value

/-- The value of a sum; the variables that it assigns are set. -/
def sumValue (text : Bytes) : Run Int := do
  let bindings := (← Run.process).bindings
  let numberOf (name : String) : Except Sum.Fault Int :=
    let value := ((Entries.get? name bindings).bind Variable.value).getD []
    match Number.anyBase? value with
    | some n => .ok n
    | none => .error (.complaint s!"Illegal number: {textOf value}")
  let shown (message : String) : String :=
    if message.startsWith "Illegal" then message
    else s!"arithmetic expression: {message}: \"{textOf text}\""
  match Sum.ofText (charsOf text) with
  | .error message => Run.fail (shown message)
  | .ok sum =>
    match (sum.value numberOf).run [] with
    | .error (.complaint message) => Run.fail (shown message)
    | .error .overflow => throw (.killed 8)
    | .ok (n, assigned) =>
      assigned.forM fun (name, value) => Run.assign name (bytesOf (toString value))
      return n

/-- Bytes without the breaks at their end and without zeros. -/
def outputValue (output : Bytes) : Bytes :=
  ((output.filter (· != 0)).reverse.dropWhile (· = 10)).reverse

/-- Text of a script as text that is divided into fields. -/
def divisible (glyph : Glyph) : Glyph :=
  match glyph with
  | .literal b => .found b
  | glyph => glyph

/-- Whether a text is a name of a variable. -/
def isName (name : String) : Bool :=
  name.toList.head?.any (fun c => c.isAlpha || c = '_') &&
    name.toList.all fun c => c.isAlphanum || c = '_'

mutual

/-- The glyphs of a piece. -/
def pieceGlyphs (outputOf : OutputOf) : Piece → Run (List Glyph)
  | .text chars quoted =>
    let bytes := bytesOf (String.ofList chars)
    return if quoted then .mark :: bytes.map .quoted else bytes.map .literal
  | .output body quoted => do return given quoted (outputValue (← outputOf body))
  | .sum expression quoted => do
    let n ← sumValue (joinedBytes (← wordGlyphs outputOf expression))
    return given quoted (bytesOf (toString n))
  | .parameter name change orEmpty word quoted => do
    let value ← parameter? name
    let present : Option Bytes := if orEmpty then value.filter (!·.isEmpty) else value
    let shown (bytes : Bytes) : Run (List Glyph) := parameterGlyphs name quoted bytes
    let unset {α : Type} (message : String) : Run α := Run.fail s!"{name}: {message}"
    /- The value for a change of it; without one it is empty, or a failure if the option says so. -/
    let expected : Run Bytes := do
      match value with
      | some bytes => return bytes
      | none =>
        if (← Run.process).options.contains 'u' && name != "@" && name != "*" then
          unset "parameter not set"
        else return []
    let other : Run (List Glyph) := do
      let glyphs ← wordGlyphs outputOf word
      return if quoted then glyphs else glyphs.map divisible
    match change with
    | .plain => shown (← expected)
    | .length => return given quoted (bytesOf (toString (← expected).length))
    | .default =>
      match present with
      | some bytes => shown bytes
      | none => other
    | .assign =>
      match present with
      | some bytes => shown bytes
      | none =>
        let bytes := joinedBytes (← wordGlyphs outputOf word)
        if !isName name then Run.fail s!"{name}: bad variable name"
        Run.assign name bytes
        return given quoted bytes
    | .require =>
      match present with
      | some bytes => shown bytes
      | none =>
        let message := joinedBytes (← wordGlyphs outputOf word)
        if !word.isEmpty then unset (textOf message)
        else unset (if orEmpty then "parameter not set or null" else "parameter not set")
    | .alternate => if present.isSome then other else return []
    | .withoutFront longest =>
      let bytes ← expected
      let pattern := patternOf (← wordGlyphs outputOf word)
      return given quoted (bytes.drop ((frontMatch? pattern longest (charsOf bytes)).getD 0))
    | .withoutEnd longest =>
      let bytes ← expected
      let pattern := patternOf (← wordGlyphs outputOf word)
      return given quoted
        (bytes.take ((endMatch? pattern longest (charsOf bytes)).getD bytes.length))
    | .unknown => Run.fail "Bad substitution"

/-- The glyphs of a word. -/
def wordGlyphs (outputOf : OutputOf) : List Piece → Run (List Glyph)
  | [] => return []
  | piece :: rest => do
    let first ← pieceGlyphs outputOf piece
    return first ++ (← wordGlyphs outputOf rest)

end

/-- The home directories of users. -/
def homes : List (String × String) :=
  [("root", "/root"), ("daemon", "/usr/sbin"), ("bin", "/bin"), ("sys", "/dev"),
    ("mail", "/var/mail"), ("www-data", "/var/www"), ("nobody", "/nonexistent")]

/-- The home directory of a user; of one's own without a name. -/
def homeOf? (user : String) : Run (Option String) := do
  if user.isEmpty then return (← Run.valueOf? "HOME").map textOf
  else return Entries.get? user homes

/-- The unquoted characters at the front of a word that no mark ends, and what follows them. -/
def plainFront (isMark : Char → Bool) : Word → List Char × Word
  | .text [c] false :: rest =>
    if isMark c then ([], .text [c] false :: rest)
    else
      let (front, after) := plainFront isMark rest
      (c :: front, after)
  | word => ([], word)

/-- A word with a home directory in place of a tilde at its front, and of the name after it. A
colon ends such a name in an assignment alone. -/
def withHome (inAssignment : Bool) (word : Word) : Run Word := do
  match word with
  | .text ['~'] false :: rest =>
    let (user, after) := plainFront (fun c => c = '/' || (inAssignment && c = ':')) rest
    let endsThere : Bool :=
      match after with
      | [] => true
      | .text [c] false :: _ => c = '/' || (inAssignment && c = ':')
      | _ => false
    if !endsThere then return word
    match ← homeOf? (String.ofList user) with
    | some home => return .text home.toList true :: after
    | none => return word
  | _ => return word

/-- The value of an assignment with home directories in place of tildes at its front and after
colons. -/
def withHomes : Nat → Word → Run Word
  | 0, word => return word
  | fuel + 1, word => do
    match (← withHome true word) with
    | [] => return []
    | .text [':'] false :: rest => return .text [':'] false :: (← withHomes fuel rest)
    | piece :: rest =>
      let (front, after) := plainFront (· = ':') rest
      let kept := rest.take front.length
      match after with
      | .text [':'] false :: more =>
        return piece :: kept ++ .text [':'] false :: (← withHomes fuel more)
      | _ => return piece :: kept ++ after

/-- The bytes of a word that is a single field. -/
def wordBytes (outputOf : OutputOf) (word : Word) : Run Bytes := do
  return joinedBytes (← wordGlyphs outputOf (← withHome false word))

/-- The bytes of the value of an assignment. -/
def valueBytes (outputOf : OutputOf) (word : Word) : Run Bytes := do
  return joinedBytes (← wordGlyphs outputOf (← withHomes (word.length + 1) word))

/-- A pattern in parts between slashes. -/
def patternParts (pattern : List Mark) : List (List Mark) :=
  pattern.splitOnP fun (c, _) => c = '/'

/-- The paths that begin with a path and go on as a pattern says part by part. A name that begins
with a dot is matched only by a part that does so, too. -/
def matchingPaths (files : Files) (path : String) : List (List Mark) → List String
  | [] => [path]
  | part :: rest =>
    let next (name : String) : List String :=
      let path := path ++ name
      if rest.isEmpty then [path] else matchingPaths files (path ++ "/") rest
    if part.isEmpty || !isPattern part then
      let name := textOf ((plain part).map fun c => UInt8.ofNat c.toNat)
      if name = "" || files.exists? (.ofText (path ++ name)) then next name else []
    else
      let around := (files.place (.ofText path)).toOption.filter fun place =>
        files.entry? place = some .directory
      let all := (around.map fun place => "." :: ".." :: files.namesIn place).getD []
      let names := all.filter fun name =>
        isMatch part (charsOf (bytesOf name)) &&
          (!(name.startsWith ".") || (plain part).head? = some '.')
      (names.mergeSort fun a b => !(b < a)).flatMap next

/-- What a field stands for. -/
def fieldPaths (files : Files) (field : Field) : List Bytes :=
  if isPattern field.pattern then
    match matchingPaths files "" (patternParts field.pattern) with
    | [] => [field.bytes]
    | paths => paths.map bytesOf
  else [field.bytes]

/-- The fields that a word stands for. -/
def wordFields (outputOf : OutputOf) (word : Word) : Run (List Bytes) := do
  let arguments := (← Run.process).arguments
  let isNothing :=
    match word with
    | [.text [] true, .parameter "@" .plain _ _ true] => arguments.isEmpty
    | _ => false
  if isNothing then return []
  let glyphs ← wordGlyphs outputOf (← withHome false word)
  let fields := splitFields (← separators) none false glyphs
  let s ← get
  if s.process.options.contains 'f' then return fields.map Field.bytes
  let files := Storage.visible s
  return fields.flatMap fun field => fieldPaths files field

end ConfigTemplate.Shell
