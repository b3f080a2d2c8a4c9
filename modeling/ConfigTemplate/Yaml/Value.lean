import ConfigTemplate.Decimal.Style
import ConfigTemplate.Json.Basic
import ConfigTemplate.Text.Encoding

/-!
# Values of settings

The data model of YAML 1.1 as far as its safe types go: the JSON values, bytes, dates and times,
sets and pairs. A container may occur inside itself. The keys of a mapping are scalars of any type.
Every JSON value is one of these values.
-/

namespace ConfigTemplate.Yaml

/-- A day of the calendar. -/
structure Date where
  year : Nat
  month : Nat
  day : Nat
  deriving DecidableEq, Repr

/-- Leap years of the Gregorian calendar. -/
def isLeapYear (year : Nat) : Bool := year % 4 = 0 && (year % 100 ≠ 0 || year % 400 = 0)

/-- The number of days in a month. -/
def daysIn (year month : Nat) : Nat :=
  if month = 2 then (if isLeapYear year then 29 else 28)
  else if [4, 6, 9, 11].contains month then 30
  else 31

/-- A time of a day, with the distance from universal time in seconds where it is given. -/
structure Time where
  date : Date
  hour : Nat
  minute : Nat
  second : Nat
  microsecond : Nat
  offset : Option Int
  deriving DecidableEq, Repr

/-- The key of a mapping. A floating-point key is given by its bits. -/
inductive Key where
  | null
  | bool (b : Bool)
  | int (n : Int)
  | float (bits : UInt64)
  | str (s : String)
  | bytes (content : List UInt8)
  | date (d : Date)
  | time (t : Time)
  deriving DecidableEq, Repr

/-- A value of a settings file. -/
inductive Value where
  | null
  | bool (b : Bool)
  | int (n : Int)
  | float (x : Float)
  | str (s : String)
  | bytes (content : List UInt8)
  | date (d : Date)
  | time (t : Time)
  | seq (items : List Value)
  | map (entries : List (Key × Value))
  | set (keys : List Key)
  | pair (first second : Value)
  /-- A sequence or a mapping inside itself, which is not shown again. -/
  | again (isMapping : Bool)
  deriving Inhabited, Repr

/-- A mapping by its entries. -/
abbrev Mapping := List (Key × Value)

/-- A key as a value. -/
def Key.toValue : Key → Value
  | null => .null
  | bool b => .bool b
  | int n => .int n
  | float bits => .float (Float.ofBits bits)
  | str s => .str s
  | bytes content => .bytes content
  | date d => .date d
  | time t => .time t

namespace Value

/-- A value as a key; none for a container. -/
def toKey? : Value → Option Key
  | null => some .null
  | bool b => some (.bool b)
  | int n => some (.int n)
  | float x => some (.float x.toBits)
  | str s => some (.str s)
  | bytes content => some (.bytes content)
  | date d => some (.date d)
  | time t => some (.time t)
  | _ => none

mutual

/-- A JSON value as a settings value. -/
def ofJson : Json → Value
  | .null => null
  | .bool b => bool b
  | .int n => int n
  | .float x => float x
  | .str s => str s
  | .arr items => seq (ofJsonItems items)
  | .obj members => map (ofJsonMembers members)

/-- JSON values as settings values. -/
def ofJsonItems : List Json → List Value
  | [] => []
  | item :: rest => ofJson item :: ofJsonItems rest

/-- The members of an object as the entries of a mapping. -/
def ofJsonMembers : List (String × Json) → Mapping
  | [] => []
  | (key, value) :: rest => (.str key, ofJson value) :: ofJsonMembers rest

end

/-- The name of a value's type in messages. -/
def typeName : Value → String
  | null => "NoneType"
  | bool _ => "bool"
  | int _ => "int"
  | float _ => "float"
  | str _ => "str"
  | bytes _ => "bytes"
  | date _ => "date"
  | time _ => "datetime"
  | seq _ => "list"
  | map _ => "dict"
  | set _ => "set"
  | pair .. => "tuple"
  | again isMapping => if isMapping then "dict" else "list"

/-- A null value. -/
def isNull : Value → Bool
  | null => true
  | _ => false

/-- The entries of a mapping. -/
def mapping? : Value → Option Mapping
  | map entries => some entries
  | _ => none

/-- Whether a value counts as true: null, zero and what is empty do not. -/
def isTruthy : Value → Bool
  | null => false
  | bool b => b
  | int n => n != 0
  | float x => x != 0
  | str s => s != ""
  | bytes content => !content.isEmpty
  | date _ | time _ => true
  | seq items => !items.isEmpty
  | map entries => !entries.isEmpty
  | set keys => !keys.isEmpty
  | pair .. | again _ => true

end Value

end ConfigTemplate.Yaml
