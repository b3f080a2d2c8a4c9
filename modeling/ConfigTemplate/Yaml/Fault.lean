import ConfigTemplate.Yaml.Shown

/-!
# Faults of settings files

Why the text of a settings file has no value: it is not well-formed or holds something of no known
type, or a scalar in it has the shape of some type and yet no value of it.
-/

namespace ConfigTemplate.Yaml.Scalar

/-- Why a scalar has no value. -/
inductive Fault where
  /-- Digits are missing or are none in their base. -/
  | notInteger (base : Nat) (text : String)
  | notFloat (text : String)
  /-- Where a number should be, there is nothing. -/
  | emptyNumber
  | notTruthValue (word : String)
  | notTimestamp
  | yearRange (year : Nat)
  | monthRange
  | dayRange
  | hourRange
  | minuteRange
  | secondRange
  /-- A distance from universal time is a day or more. -/
  | offsetRange (seconds : Int)
  /-- A mapping with a default entry stands for a time. -/
  | timeOfMapping
  /-- An escape gives a code point beyond the last one. -/
  | codePoint (code : Nat)
  /-- There are too many digits of base ten. -/
  | digits (excess : Decimal.Excess)
  deriving Repr

/-- The wording of a fault. -/
def Fault.message : Fault → String
  | notInteger base text =>
    let shown := String.ofList ((Text.quoted text).toList.take 200)
    s!"invalid literal for int() with base {base}: {shown}"
  | notFloat text => s!"could not convert string to float: {Text.quoted text}"
  | emptyNumber => "string index out of range"
  | notTruthValue word => Text.quoted word
  | notTimestamp => "'NoneType' object has no attribute 'groupdict'"
  | yearRange year => s!"year {year} is out of range"
  | monthRange => "month must be in 1..12"
  | dayRange => "day is out of range for month"
  | hourRange => "hour must be in 0..23"
  | minuteRange => "minute must be in 0..59"
  | secondRange => "second must be in 0..59"
  | offsetRange seconds =>
    "offset must be a timedelta strictly between -timedelta(hours=24) and timedelta(hours=24), " ++
      s!"not {shownDuration seconds}."
  | timeOfMapping => "expected string or bytes-like object, got 'list'"
  | codePoint code =>
    if code < Nat.pow 2 31 then "chr() arg not in range(0x110000)"
    else "Python int too large to convert to C int"
  | digits excess => excess.message

end ConfigTemplate.Yaml.Scalar

namespace ConfigTemplate.Yaml

/-- Why a text has no value. -/
inductive Fault where
  /-- It is not well-formed, or has a value of no known type. -/
  | malformed
  | scalar (fault : Scalar.Fault)
  deriving Repr

end ConfigTemplate.Yaml
