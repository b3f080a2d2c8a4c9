import ConfigTemplate.Yaml.Value

/-!
# Settings values in messages

How a message shows a settings value: texts between quotes, containers in their brackets, dates and
times by their parts.
-/

namespace ConfigTemplate.Yaml

/-- Parts between parentheses after a name. -/
def shownParts (name : String) (parts : List String) : String :=
  name ++ "(" ++ String.intercalate ", " parts ++ ")"

/-- How a message shows a day. -/
def Date.shown (d : Date) : String :=
  shownParts "datetime.date" [toString d.year, toString d.month, toString d.day]

/-- How a message shows a number of seconds: by days and seconds, as far as they are not zero. -/
def shownDuration (seconds : Int) : String :=
  let days := Int.fdiv seconds 86400
  let rest := Int.fmod seconds 86400
  let parts :=
    (if days = 0 then [] else [s!"days={days}"]) ++
      (if rest = 0 then [] else [s!"seconds={rest}"])
  shownParts "datetime.timedelta" parts

/-- How a message shows a distance from universal time. -/
def shownOffset (seconds : Int) : String :=
  if seconds = 0 then "datetime.timezone.utc"
  else shownParts "datetime.timezone" [shownDuration seconds]

/-- How a message shows a time. Seconds are left out when they and their fraction are zero. -/
def Time.shown (t : Time) : String :=
  let seconds :=
    if t.microsecond ≠ 0 then [toString t.second, toString t.microsecond]
    else if t.second ≠ 0 then [toString t.second]
    else []
  let zone :=
    match t.offset with
    | none => []
    | some seconds => ["tzinfo=" ++ shownOffset seconds]
  shownParts "datetime.datetime"
    ([toString t.date.year, toString t.date.month, toString t.date.day, toString t.hour,
      toString t.minute] ++ seconds ++ zone)

/-- What stands for one byte between quotes. -/
def escapeByte (quote : Char) (b : UInt8) : List Char :=
  let c := Char.ofNat b.toNat
  if c = quote || c = '\\' then ['\\', c]
  else if c = '\n' then ['\\', 'n']
  else if c = '\r' then ['\\', 'r']
  else if c = '\t' then ['\\', 't']
  else if 0x20 ≤ b && b < 0x7F then [c]
  else '\\' :: 'x' :: Text.hexDigits 2 b.toNat

/-- How a message shows bytes. -/
def shownBytes (content : List UInt8) : String :=
  let quote := Text.Quoted.delimiter (content.map fun b => Char.ofNat b.toNat)
  String.ofList ('b' :: quote :: content.flatMap (escapeByte quote) ++ [quote])

/-- How a message shows a key. -/
def Key.shown : Key → String
  | null => "None"
  | bool true => "True"
  | bool false => "False"
  | int n => toString n
  | float bits => Decimal.Style.message.float (Float.ofBits bits)
  | str s => Text.quoted s
  | bytes content => shownBytes content
  | date d => d.shown
  | time t => t.shown

namespace Value

mutual

/-- How a message shows a value. -/
def shown : Value → String
  | null => "None"
  | bool true => "True"
  | bool false => "False"
  | int n => toString n
  | float x => Decimal.Style.message.float x
  | str s => Text.quoted s
  | bytes content => shownBytes content
  | date d => d.shown
  | time t => t.shown
  | seq items => "[" ++ String.intercalate ", " (shownItems items) ++ "]"
  | map entries => "\x7b" ++ String.intercalate ", " (shownEntries entries) ++ "\x7d"
  | set [] => "set()"
  | set keys => "\x7b" ++ String.intercalate ", " (keys.map Key.shown) ++ "\x7d"
  | pair first second => "(" ++ shown first ++ ", " ++ shown second ++ ")"
  | again isMapping => if isMapping then "\x7b...\x7d" else "[...]"

/-- How a message shows the items of a sequence. -/
def shownItems : List Value → List String
  | [] => []
  | item :: rest => shown item :: shownItems rest

/-- How a message shows the entries of a mapping. -/
def shownEntries : List (Key × Value) → List String
  | [] => []
  | (key, value) :: rest => (key.shown ++ ": " ++ shown value) :: shownEntries rest

end

/-! ### Values that no message shows -/

end Value

/-- Whether a key is an integer with too many digits to be shown. -/
def Key.isTooLong : Key → Bool
  | int n => Decimal.isTooLong n
  | _ => false

namespace Value

mutual

/-- Whether there is an integer in a value that has too many digits to be shown. -/
def isTooLong : Value → Bool
  | int n => Decimal.isTooLong n
  | seq items => anyTooLong items
  | map entries => anyEntryTooLong entries
  | set keys => keys.any Key.isTooLong
  | pair first second => isTooLong first || isTooLong second
  | _ => false

/-- Whether there is such an integer in the items of a sequence. -/
def anyTooLong : List Value → Bool
  | [] => false
  | item :: rest => isTooLong item || anyTooLong rest

/-- Whether there is such an integer in the entries of a mapping. -/
def anyEntryTooLong : List (Key × Value) → Bool
  | [] => false
  | (key, value) :: rest => key.isTooLong || isTooLong value || anyEntryTooLong rest

end

/-! ### JSON -/

/-- The member name that a key has in JSON; none for a key that JSON cannot name. -/
def memberName? : Key → Option String
  | .null => some "null"
  | .bool b => some (if b then "true" else "false")
  | .int n => some (toString n)
  | .float bits => some (Decimal.Style.document.float (Float.ofBits bits))
  | .str s => some s
  | _ => none

mutual

/-- The JSON value of a settings value; none where JSON has no such value. -/
def toJson? : Value → Option Json
  | null => some .null
  | bool b => some (.bool b)
  | int n => some (.int n)
  | float x => some (.float x)
  | str s => some (.str s)
  | seq items => (toJsonItems? items).map .arr
  | map entries => (toJsonMembers? entries).map .obj
  | pair first second => do
    let first ← toJson? first
    let second ← toJson? second
    return .arr [first, second]
  | _ => none

/-- The JSON values of the items of a sequence. -/
def toJsonItems? : List Value → Option (List Json)
  | [] => some []
  | item :: rest => do
    let item ← toJson? item
    let rest ← toJsonItems? rest
    return item :: rest

/-- The members of an object for the entries of a mapping. -/
def toJsonMembers? : List (Key × Value) → Option (List (String × Json))
  | [] => some []
  | (key, value) :: rest => do
    let name ← memberName? key
    let value ← toJson? value
    let rest ← toJsonMembers? rest
    return (name, value) :: rest

end

end Value

end ConfigTemplate.Yaml
