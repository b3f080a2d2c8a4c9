import ConfigTemplate.Log.Moment
import ConfigTemplate.Shell.Programs.Basic

/-!
# Dates and times

The moments that programs show by a format and read from a text. All times are universal times.
-/

namespace ConfigTemplate.Shell.Programs

open Text (Bytes)
open Run (bytesOf textOf)

namespace Calendar

/-- A moment by its parts. -/
structure Moment where
  seconds : Int
  year : Int
  month : Nat
  day : Nat
  hour : Nat
  minute : Nat
  second : Nat
  /-- The day of the week; Sunday is the first one. -/
  weekday : Nat
  /-- The day of the year; the first one is zero. -/
  yearDay : Nat

/-- The number of days from the beginning of 1970 to a date. Months beyond a year count on. -/
def daysTo (year : Int) (month : Int) (day : Int) : Int :=
  let months := year * 12 + (month - 1)
  let year := Int.fdiv months 12
  let month := (Int.fmod months 12).toNat + 1
  let y := if month ≤ 2 then year - 1 else year
  let cycle := Int.fdiv y 400
  let yearOfCycle := Int.fmod y 400
  let shifted : Int := if 2 < month then (month : Int) - 3 else (month : Int) + 9
  let dayOfYear := Int.fdiv (153 * shifted + 2) 5 + day - 1
  let dayOfCycle := yearOfCycle * 365 + yearOfCycle / 4 - yearOfCycle / 100 + dayOfYear
  cycle * 146097 + dayOfCycle - 719468

/-- The parts of the moment of a number of seconds. -/
def Moment.ofSeconds (seconds : Int) : Moment :=
  let days := Int.fdiv seconds 86400
  let rest := (Int.fmod seconds 86400).toNat
  let (year, month, day) := Log.calendarDay days
  { seconds := seconds, year := year, month := month, day := day
    hour := rest / 3600, minute := rest / 60 % 60, second := rest % 60
    weekday := (Int.fmod (days + 4) 7).toNat
    yearDay := (days - daysTo year 1 1).toNat }

example : (Moment.ofSeconds 0).weekday = 4 := by decide +kernel

/-- The names of days of the week. -/
def dayNames : List String :=
  ["Sunday", "Monday", "Tuesday", "Wednesday", "Thursday", "Friday", "Saturday"]

/-- The names of months. -/
def monthNames : List String :=
  ["January", "February", "March", "April", "May", "June", "July", "August", "September",
    "October", "November", "December"]

/-- The first three letters of a name. -/
def short (name : String) : String := (name.take 3).toString

/-- The number of the week of a moment whose weeks begin on a day. -/
def weekOf (m : Moment) (first : Nat) : Nat :=
  let since := (m.weekday + 7 - first) % 7
  (m.yearDay + 7 - since) / 7

/-- The year and the number of the week of a moment by weeks that belong to the year of their
Thursday. -/
def thursdayWeek (m : Moment) : Int × Nat :=
  let sinceMonday : Int := (m.weekday + 6) % 7
  let days := Int.fdiv m.seconds 86400
  let thursday := Moment.ofSeconds ((days - sinceMonday + 3) * 86400)
  (thursday.year, thursday.yearDay / 7 + 1)

/-- A number filled up to a width. -/
def filled (fill : Char) (width : Nat) (n : Int) : String :=
  let digits := toString n.natAbs
  let sign := if n < 0 then "-" else ""
  sign ++ String.ofList (List.replicate (width - digits.length) fill) ++ digits

/-- What a letter of a format stands for: a number with its usual filling and width, or a text. -/
inductive Shown where
  | number (fill : Char) (width : Nat) (n : Int)
  | text (s : String)

/-- What a letter of a format stands for that needs no other letters. -/
def simple? (m : Moment) (letter : Char) : Option Shown :=
  let hour12 := if m.hour % 12 = 0 then 12 else m.hour % 12
  let weekday := dayNames.getD m.weekday ""
  let month := monthNames.getD (m.month - 1) ""
  match letter with
  | 'Y' => some (.number '0' 1 m.year)
  | 'C' => some (.number '0' 2 (Int.fdiv m.year 100))
  | 'y' => some (.number '0' 2 (Int.fmod m.year 100))
  | 'm' => some (.number '0' 2 m.month)
  | 'd' => some (.number '0' 2 m.day)
  | 'e' => some (.number ' ' 2 m.day)
  | 'H' => some (.number '0' 2 m.hour)
  | 'k' => some (.number ' ' 2 m.hour)
  | 'I' => some (.number '0' 2 hour12)
  | 'l' => some (.number ' ' 2 hour12)
  | 'M' => some (.number '0' 2 m.minute)
  | 'S' => some (.number '0' 2 m.second)
  | 'N' => some (.number '0' 9 0)
  | 's' => some (.number '0' 1 m.seconds)
  | 'j' => some (.number '0' 3 (m.yearDay + 1))
  | 'u' => some (.number '0' 1 (if m.weekday = 0 then 7 else m.weekday))
  | 'w' => some (.number '0' 1 m.weekday)
  | 'U' => some (.number '0' 2 (weekOf m 0))
  | 'W' => some (.number '0' 2 (weekOf m 1))
  | 'V' => some (.number '0' 2 (thursdayWeek m).2)
  | 'G' => some (.number '0' 1 (thursdayWeek m).1)
  | 'g' => some (.number '0' 2 (Int.fmod (thursdayWeek m).1 100))
  | 'q' => some (.number '0' 1 ((m.month + 2) / 3))
  | 'p' => some (.text (if m.hour < 12 then "AM" else "PM"))
  | 'P' => some (.text (if m.hour < 12 then "am" else "pm"))
  | 'a' => some (.text (short weekday))
  | 'A' => some (.text weekday)
  | 'b' | 'h' => some (.text (short month))
  | 'B' => some (.text month)
  | 'Z' => some (.text "UTC")
  | 'z' => some (.text "+0000")
  | 'n' => some (.text "\n")
  | 't' => some (.text "\t")
  | '%' => some (.text "%")
  | _ => none

/-- The formats that letters stand for. -/
def composed? (letter : Char) : Option String :=
  match letter with
  | 'F' => some "%Y-%m-%d"
  | 'T' | 'X' => some "%H:%M:%S"
  | 'D' | 'x' => some "%m/%d/%y"
  | 'R' => some "%H:%M"
  | 'r' => some "%I:%M:%S %p"
  | 'c' => some "%a %b %e %H:%M:%S %Y"
  | _ => none

/-- A moment by a format, in so many formats within formats at most. -/
def formatted (m : Moment) : Nat → List Char → List Char
  | 0, _ => []
  | _ + 1, [] => []
  | fuel + 1, '%' :: rest =>
    let signs := rest.takeWhile fun c => "-_0^#+".toList.contains c
    let body := rest.drop signs.length
    let digits := body.takeWhile Char.isDigit
    let body := body.drop digits.length
    let width := digits.foldl (fun n c => n * 10 + (c.toNat - 48)) 0
    let colons := body.takeWhile (· = ':')
    let cased (text : List Char) : List Char :=
      if signs.contains '^' then text.map Char.toUpper
      else if signs.contains '#' then
        text.map fun c => if text.all Char.isUpper then c.toLower else c.toUpper
      else text
    match body.drop colons.length with
    | [] => '%' :: rest
    | letter :: after =>
      let blanks (text : List Char) : List Char :=
        let fill := if signs.contains '0' then '0' else ' '
        List.replicate (width - text.length) fill ++ text
      let part : Option (List Char) :=
        if letter = 'z' && !colons.isEmpty then
          some (if colons.length = 1 then "+00:00".toList
            else if colons.length = 2 then "+00:00:00".toList else "+00".toList)
        else
          match simple? m letter with
          | some (.number fill usual n) =>
            let fill : Option Char :=
              match (signs.filter fun c => "-_0".toList.contains c).getLast? with
              | some '-' => none
              | some '_' => some ' '
              | some _ => some '0'
              | none => some fill
            if letter = 'N' && width ≠ 0 then
              some (List.replicate width '0')
            else
              some (match fill with
                | some fill => (filled fill (max usual width) n).toList
                | none => (toString n).toList)
          | some (.text text) => some (blanks (cased text.toList))
          | none =>
            (composed? letter).map fun format => blanks (cased (formatted m fuel format.toList))
      match part with
      | some text => text ++ formatted m fuel after
      | none => '%' :: formatted m fuel rest
  | fuel + 1, c :: rest => c :: formatted m fuel rest

/-- A moment by a format. -/
def shownBy (seconds : Int) (format : String) : String :=
  String.ofList (formatted (.ofSeconds seconds) (2 * format.length + 16) format.toList)

/-- What has been read of a text that describes a moment. -/
structure Reading where
  year : Int
  month : Int
  day : Int
  /-- The seconds within the day; the present ones if there is no time and no date. -/
  time : Option Int
  hasDate : Bool
  /-- Seconds to be added. -/
  offset : Int

/-- The number that digits write. -/
def numberOf (digits : List Char) : Nat := digits.foldl (fun n c => n * 10 + (c.toNat - 48)) 0

/-- The number of digits that a text consists of. -/
def digitsOf? (cs : List Char) : Option Nat :=
  if !cs.isEmpty && cs.all Char.isDigit then some (numberOf cs) else none

/-- The seconds of units. -/
def unitSeconds? (name : String) : Option Int :=
  match name with
  | "sec" | "second" => some 1
  | "min" | "minute" => some 60
  | "hour" => some 3600
  | "day" => some 86400
  | "week" => some 604800
  | "fortnight" => some 1209600
  | _ => none

/-- The seconds of a time of the day. -/
def timeOf? (cs : List Char) : Option Int :=
  match (cs.takeWhile (· != '.')).splitOn ':' |>.mapM digitsOf? with
  | some [h, m] => if h < 24 && m < 60 then some (h * 3600 + m * 60) else none
  | some [h, m, s] =>
    if h < 24 && m < 60 && s < 61 then some (h * 3600 + m * 60 + s) else none
  | _ => none

/-- The seconds by which a zone is ahead of universal time. -/
def zoneOf? (cs : List Char) : Option Int :=
  match cs with
  | sign :: rest =>
    let ahead (n : Nat) : Int := if sign = '-' then -(n : Int) else (n : Int)
    if sign ≠ '+' && sign ≠ '-' then none
    else
      let digits := rest.filter (· != ':')
      match digits.length, digitsOf? digits with
      | 2, some n => some (ahead (n * 3600))
      | 4, some n => some (ahead (n / 100 * 3600 + n % 100 * 60))
      | _, _ => none
  | [] => none

/-- The year, month and day that a text names. -/
def dateOf? (cs : List Char) : Option (Int × Int × Int) :=
  let valid (y m d : Nat) : Option (Int × Int × Int) :=
    if 1 ≤ m && m ≤ 12 && 1 ≤ d && d ≤ 31 then some (y, m, d) else none
  match (cs.splitOn '-').mapM digitsOf? with
  | some [y, m, d] => valid y m d
  | _ =>
    match (cs.splitOn '/').mapM digitsOf? with
    | some [m, d, y] => valid y m d
    | _ =>
      if cs.length = 8 then
        (digitsOf? cs).bind fun n => valid (n / 10000) (n / 100 % 100) (n % 100)
      else none

/-- The number of a name in a list, of which three letters are enough. -/
def indexOfName? (names : List String) (word : String) : Option Nat :=
  names.findIdx? fun name => name.toLower = word || (short name).toLower = word

/-- A reading with a date. -/
def Reading.withDate (r : Reading) (date : Int × Int × Int) : Reading :=
  { r with year := date.1, month := date.2.1, day := date.2.2, hasDate := true
           time := r.time.or (some 0) }

/-- A reading with a number of units added. -/
def Reading.plus? (r : Reading) (count : Int) (unit : String) : Option Reading :=
  let single := if unit.endsWith "s" then (unit.dropEnd 1).toString else unit
  match single with
  | "year" => some { r with year := r.year + count }
  | "month" => some { r with month := r.month + count }
  | _ => (unitSeconds? single).map fun seconds => { r with offset := r.offset + count * seconds }

/-- Read words that describe a moment. -/
def readWords : Nat → Reading → List String → Option Reading
  | 0, _, _ => none
  | _ + 1, r, [] => some r
  | fuel + 1, r, word :: rest =>
    let cs := word.toList
    let signed : Option Int :=
      match cs with
      | '+' :: digits => (digitsOf? digits).map Int.ofNat
      | '-' :: digits => (digitsOf? digits).map fun n => -(n : Int)
      | _ => (digitsOf? cs).map Int.ofNat
    match word with
    | "now" | "today" | "utc" | "gmt" | "z" => readWords fuel r rest
    | "yesterday" => readWords fuel { r with offset := r.offset - 86400 } rest
    | "tomorrow" => readWords fuel { r with offset := r.offset + 86400 } rest
    | "midnight" => readWords fuel { r with time := some 0 } rest
    | "noon" => readWords fuel { r with time := some 43200 } rest
    | "ago" => some { r with offset := r.offset }
    | "next" | "last" =>
      match rest with
      | unit :: rest =>
        (r.plus? (if word = "next" then 1 else -1) unit).bind fun r => readWords fuel r rest
      | [] => none
    | _ =>
      match dateOf? cs with
      | some date => readWords fuel (r.withDate date) rest
      | none =>
        match indexOfName? monthNames word with
        | some n =>
          match rest with
          | day :: rest =>
            (digitsOf? (day.toList.filter (· != ','))).bind fun d =>
              let (year, rest) : Int × List String :=
                match rest with
                | y :: more =>
                  match digitsOf? y.toList with
                  | some y => if 31 < y then (y, more) else (r.year, rest)
                  | none => (r.year, rest)
                | [] => (r.year, [])
              readWords fuel (r.withDate (year, n + 1, d)) rest
          | [] => none
        | none =>
          match timeOf? cs with
          | some t => readWords fuel { r with time := some t } rest
          | none =>
            match signed, rest with
            | some n, unit :: more =>
              match indexOfName? monthNames unit with
              | some _ => readWords fuel r (unit :: word :: more)
              | none =>
                let n := if more.head? = some "ago" then -n else n
                let more := if more.head? = some "ago" then more.drop 1 else more
                (r.plus? n unit).bind fun r => readWords fuel r more
            | _, _ =>
              match zoneOf? cs with
              | some ahead => readWords fuel { r with offset := r.offset - ahead } rest
              | none => (r.plus? 1 word).bind fun r => readWords fuel r rest

/-- The words of a text: a time that follows its date after a letter is one of its own, and so is a
zone that follows a time. -/
def wordsIn (text : String) : List String :=
  let words := (text.toLower.toList.splitOnP fun c => c = ' ' || c = '\t' || c = ',')
  (words.filter (!·.isEmpty)).flatMap fun word =>
    let front := word.takeWhile (· != 't')
    let word :=
      if (dateOf? front).isSome && front.length < word.length then
        [front, word.drop (front.length + 1)]
      else [word]
    word.flatMap fun part =>
      if part.contains ':' then
        let time := part.takeWhile fun c => c.isDigit || c = ':' || c = '.'
        let zone := part.drop time.length
        (if zone.isEmpty then [time] else [time, zone]).map String.ofList
      else [String.ofList part]

/-- The moment that a text describes, seen from the present one. -/
def secondsOf? (now : Int) (text : String) : Option Int :=
  match text.toList with
  | '@' :: rest =>
    match rest.takeWhile (· != '.') with
    | '-' :: digits => (digitsOf? digits).map fun n => -(n : Int)
    | digits => (digitsOf? digits).map Int.ofNat
  | _ =>
    let m := Moment.ofSeconds now
    let words := wordsIn text
    let start : Reading := ⟨m.year, m.month, m.day, none, false, 0⟩
    if words.isEmpty then some (daysTo m.year m.month m.day * 86400)
    else
      (readWords (2 * words.length + 2) start words).map fun r =>
        daysTo r.year r.month r.day * 86400 + r.time.getD (Int.fmod now 86400) + r.offset

/-- The moment that digits write: the month, day, hour and minute, perhaps after a year and before
seconds. -/
def ofStamp? (now : Int) (text : String) : Option Int := do
  let (front, second) :=
    match text.toList.splitOn '.' with
    | [front, second] => (front, digitsOf? second)
    | [front] => (front, some 0)
    | _ => ([], none)
  let second ← second
  let n ← digitsOf? front
  let m := Moment.ofSeconds now
  let year : Int ← match front.length with
    | 8 => some m.year
    | 10 => some (let y := n / 100000000; if y < 69 then 2000 + y else 1900 + y)
    | 12 => some (n / 100000000 : Nat)
    | _ => none
  let month := n / 1000000 % 100
  let day := n / 10000 % 100
  let hour := n / 100 % 100
  let minute := n % 100
  if month = 0 || 12 < month || day = 0 || 31 < day || 23 < hour || 59 < minute || 60 < second then
    none
  else
    return daysTo year month day * 86400 + hour * 3600 + minute * 60 + second

end Calendar

/-- Show a moment by a format. -/
def showDate : Program := fun arguments => do
  let manual : Manual :=
    { name := "date"
      choices := [valued 'd' "date", valued 'r' "reference", ⟨['u'], "utc", .none⟩,
        ⟨['I'], "iso-8601", .optional⟩, ⟨['R'], "rfc-email", .none⟩, long "rfc-3339" .required,
        valued 's' "set", long "universal" .none] }
  let given ← manual.read arguments
  let s ← get
  let seconds : Int ←
    match given.value? "d", given.value? "r" with
    | some text, _ =>
      match Calendar.secondsOf? (Storage.now s) (textOf text) with
      | some seconds => pure seconds
      | none => fail 1 s!"date: invalid date {curly text}"
    | none, some name =>
      match Storage.place s name true with
      | .ok place =>
        if Storage.isTaken s place then pure (Storage.stampOf s place)
        else fail 1 s!"date: {named name}: {Storage.wording .missing}"
      | .error fault => fail 1 s!"date: {named name}: {Storage.wording fault}"
    | none, none => pure (Storage.now s)
  let isoFormat (precision : String) : Option String :=
    match precision with
    | "" | "date" => some "%Y-%m-%d"
    | "hours" => some "%Y-%m-%dT%H%:z"
    | "minutes" => some "%Y-%m-%dT%H:%M%:z"
    | "seconds" => some "%Y-%m-%dT%H:%M:%S%:z"
    | "ns" => some "%Y-%m-%dT%H:%M:%S,%N%:z"
    | _ => none
  let asked : Option String ←
    match given.last? ["I", "R", "rfc-3339"] with
    | some "I" =>
      let precision := (given.value? "I").getD []
      match isoFormat (textOf precision) with
      | some format => pure (some format)
      | none => misuse manual s!"invalid argument {curly precision} for ‘--iso-8601’"
    | some "R" => pure (some "%a, %d %b %Y %H:%M:%S %z")
    | some _ =>
      let precision := textOf ((given.value? "rfc-3339").getD [])
      pure (some (if precision = "date" then "%Y-%m-%d"
        else if precision = "ns" then "%Y-%m-%d %H:%M:%S.%N%:z" else "%Y-%m-%d %H:%M:%S%:z"))
    | none => pure none
  let format : String ←
    match given.operands with
    | [] => pure (asked.getD "%a %b %e %H:%M:%S %Z %Y")
    | [43 :: format] =>
      if asked.isSome then fail 1 "date: multiple output formats specified"
      pure (textOf format)
    | (43 :: _) :: extra :: _ => misuse manual s!"extra operand {curly extra}"
    | other :: _ => fail 1 s!"date: invalid date {curly other}"
  Run.write 1 (bytesOf (Calendar.shownBy seconds format ++ "\n"))
  return 0

end ConfigTemplate.Shell.Programs
