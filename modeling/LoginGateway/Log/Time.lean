import LoginGateway.Log.Basic

/-! Points in time as records tell them: date and time of day in UTC, to the microsecond. -/

namespace LoginGateway.Log

structure Date where
  year : Nat
  month : Nat
  day : Nat
deriving DecidableEq, Repr

/-- The date so many days after the first of January 1970. Years are counted from
March, so that a leap day ends its year, and in blocks of 400, which are alike. -/
def Date.ofDays (days : Nat) : Date :=
  let shifted := days + 719468
  let inBlock := shifted % 146097
  let year := (inBlock - inBlock / 1460 + inBlock / 36524 - inBlock / 146096) / 365
  let inYear := inBlock - (365 * year + year / 4 - year / 100)
  let month := (5 * inYear + 2) / 153
  let isNext := 10 ≤ month
  { year := shifted / 146097 * 400 + year + (if isNext then 1 else 0)
    month := if isNext then month - 9 else month + 3
    day := inYear - (153 * month + 2) / 5 + 1 }

/-- A number with zeros in front, so that it has `width` digits. -/
def padded (width value : Nat) : String :=
  let digits := Nat.repr value
  String.ofList (List.replicate (width - digits.length) '0') ++ digits

/-- The text of a point in time, given in microseconds since the start of 1970. -/
def timeText (microseconds : Nat) : String :=
  let seconds := microseconds / 1000000
  let date := Date.ofDays (seconds / 86400)
  padded 4 date.year ++ "-" ++ padded 2 date.month ++ "-" ++ padded 2 date.day
    ++ "T" ++ padded 2 (seconds / 3600 % 24) ++ ":" ++ padded 2 (seconds / 60 % 60)
    ++ ":" ++ padded 2 (seconds % 60) ++ "." ++ padded 6 (microseconds % 1000000) ++ "Z"

def Record.line (time : String) (record : Record) : String :=
  time ++ String.ofList (List.replicate (6 - record.level.name.length) ' ') ++ record.text

end LoginGateway.Log
