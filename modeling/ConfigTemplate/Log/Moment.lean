/-!
# Moments

The date and the time of day, in universal time, of a number of seconds since the beginning of
1970. Years are counted from March on, so that a leap day is the last day of its year.
-/

namespace ConfigTemplate.Log

/-- A number in decimal digits, with zeros in front of it up to a width. -/
def padded (width n : Nat) : String :=
  let digits := Nat.toDigits 10 n
  String.ofList (List.replicate (width - digits.length) '0' ++ digits)

/-- The year, month and day of a number of days since the beginning of 1970. Days are counted
within cycles of 400 years, which have 146097 days each. -/
def calendarDay (days : Int) : Int × Nat × Nat :=
  let shifted := days + 719468
  let cycle := Int.fdiv shifted 146097
  let day := (Int.fmod shifted 146097).toNat
  let year := (day - day / 1460 + day / 36524 - day / 146096) / 365
  let dayOfYear := day - (365 * year + year / 4 - year / 100)
  let month := (5 * dayOfYear + 2) / 153
  let dayOfMonth := dayOfYear - (153 * month + 2) / 5 + 1
  let firstYear : Int := year + cycle * 400
  if month < 10 then (firstYear, month + 3, dayOfMonth) else (firstYear + 1, month - 9, dayOfMonth)

/-- Whether the years of a moment can be counted in 32 bits. -/
def hasCalendarDay (seconds : Int) : Bool :=
  let (year, _, _) := calendarDay (Int.fdiv seconds 86400)
  (year - 1900).natAbs < Nat.pow 2 31

/-- The text of a moment: the date between hyphens and the time between colons. -/
def momentText (seconds : Int) : String :=
  let (year, month, day) := calendarDay (Int.fdiv seconds 86400)
  let second := (Int.fmod seconds 86400).toNat
  s!"{year}-{padded 2 month}-{padded 2 day} " ++
    s!"{padded 2 (second / 3600)}:{padded 2 (second / 60 % 60)}:{padded 2 (second % 60)}"

example : momentText 1700000000 = "2023-11-14 22:13:20" := by decide +kernel

end ConfigTemplate.Log
