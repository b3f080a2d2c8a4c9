import ConfigTemplate.Yaml.Cursor
import ConfigTemplate.Yaml.Scalar.Number

/-!
# Days and times in settings files

A day is written by its year, month and day between hyphens. A time of the day may follow, after
the letter T or blanks, with a fraction of its seconds and its distance from universal time.
-/

namespace ConfigTemplate.Yaml.Scalar

open Json.Reader (isAsciiDigit digitsValue)

/-- The digits of a distance from universal time. -/
structure ZoneText where
  isWest : Bool
  hours : List Char
  minutes : List Char
  deriving Repr

/-- The digits of a time of the day. A distance from universal time may be left out, or be given as
none at all. -/
structure ClockText where
  hour : List Char
  minute : List Char
  second : List Char
  fraction : List Char
  zone : Option (Option ZoneText)
  deriving Repr

/-- The digits of a day and, where it is given, of a time. -/
structure TimestampText where
  year : List Char
  month : List Char
  day : List Char
  clock : Option ClockText
  deriving Repr

/-- Digits of a least and a greatest number, and what follows them. -/
def digitsBetween (least most : Nat) (cs : List Char) : Option (List Char × List Char) :=
  let digits := (cs.take most).takeWhile isAsciiDigit
  if least ≤ digits.length then some (digits, cs.drop digits.length) else none

/-- What follows a character. -/
def after? (c : Char) : List Char → Option (List Char)
  | d :: rest => if d = c then some rest else none
  | [] => none

/-- The distance from universal time at the end of a text. -/
def zoneText? (cs : List Char) : Option (Option (Option ZoneText)) :=
  match cs with
  | [] => some none
  | _ =>
    match cs.dropWhile isSpaceOrTab with
    | ['Z'] => some (some none)
    | sign :: rest => do
      if sign ≠ '+' && sign ≠ '-' then none
      let (hours, rest) ← digitsBetween 1 2 rest
      let minutes ←
        match rest with
        | [] => some []
        | _ => do
          let (minutes, rest) ← digitsBetween 2 2 (← after? ':' rest)
          if rest.isEmpty then some minutes else none
      return some (some ⟨sign = '-', hours, minutes⟩)
    | [] => none

/-- The time after a day. -/
def clockText? (cs : List Char) : Option ClockText := do
  let (hour, cs) ← digitsBetween 1 2 cs
  let (minute, cs) ← digitsBetween 2 2 (← after? ':' cs)
  let (second, cs) ← digitsBetween 2 2 (← after? ':' cs)
  let (fraction, cs) :=
    match cs with
    | '.' :: rest => (rest.takeWhile isAsciiDigit, rest.dropWhile isAsciiDigit)
    | _ => ([], cs)
  return ⟨hour, minute, second, fraction, ← zoneText? cs⟩

/-- The parts of a day and a time. -/
def timestampText? (cs : List Char) : Option TimestampText := do
  let (year, cs) ← digitsBetween 4 4 cs
  let (month, cs) ← digitsBetween 1 2 (← after? '-' cs)
  let (day, cs) ← digitsBetween 1 2 (← after? '-' cs)
  match cs with
  | [] => return ⟨year, month, day, none⟩
  | c :: rest =>
    if c = 'T' || c = 't' then return ⟨year, month, day, some (← clockText? rest)⟩
    else if isSpaceOrTab c then
      return ⟨year, month, day, some (← clockText? (rest.dropWhile isSpaceOrTab))⟩
    else none

/-- Whether characters have the shape of a day or a time. A day by itself has two digits for its
month and two for its day. -/
def isTimestamp (cs : List Char) : Bool :=
  match timestampText? cs with
  | none => false
  | some t => t.clock.isSome || (t.month.length = 2 && t.day.length = 2)

/-- A day of the calendar. -/
def dateOf (year month day : Nat) : Except Fault Date :=
  if year = 0 then .error (.yearRange year)
  else if month = 0 || 12 < month then .error .monthRange
  else if day = 0 || daysIn year month < day then .error .dayRange
  else .ok ⟨year, month, day⟩

/-- The millionths of a second that the digits after the point give. -/
def microseconds (fraction : List Char) : Nat :=
  let digits := fraction.take 6
  digitsValue digits * Nat.pow 10 (6 - digits.length)

/-- The seconds of a distance from universal time. -/
def offsetOf (zone : ZoneText) : Except Fault Int :=
  let seconds : Int := digitsValue zone.hours * 3600 + digitsValue zone.minutes * 60
  let seconds := if zone.isWest then -seconds else seconds
  if 86400 ≤ seconds.natAbs then .error (.offsetRange seconds) else .ok seconds

/-- The time that texts of a day and of a clock give. -/
def timeOf (t : TimestampText) (clock : ClockText) : Except Fault Time := do
  let offset ←
    match clock.zone with
    | none => pure none
    | some none => pure (some 0)
    | some (some zone) => some <$> offsetOf zone
  let date ← dateOf (digitsValue t.year) (digitsValue t.month) (digitsValue t.day)
  let hour := digitsValue clock.hour
  let minute := digitsValue clock.minute
  let second := digitsValue clock.second
  if 23 < hour then throw .hourRange
  if 59 < minute then throw .minuteRange
  if 59 < second then throw .secondRange
  return ⟨date, hour, minute, second, microseconds clock.fraction, offset⟩

/-- Characters without a line break at their end, unless there is nothing else. -/
def withoutFinalBreak : List Char → List Char
  | [] => []
  | [c] => [c]
  | [c, '\n'] => [c]
  | c :: rest => c :: withoutFinalBreak rest

/-- The day or the time that a text gives. A line break at its end does not count. -/
def timestamp (text : String) : Except Fault Value :=
  match timestampText? (withoutFinalBreak text.toList) with
  | none => .error .notTimestamp
  | some t =>
    match t.clock with
    | none =>
      Value.date <$> dateOf (digitsValue t.year) (digitsValue t.month) (digitsValue t.day)
    | some clock => Value.time <$> timeOf t clock

example : timestampText? "2001-12-14T21:59:43.10-05:00".toList ≠ none := by decide

end ConfigTemplate.Yaml.Scalar
