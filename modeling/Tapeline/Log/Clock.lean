import Tapeline.Binary64.Shortest

/-!
# Timestamps

A time is a number of seconds since the start of 1970.  It is rounded to microseconds, to the even
one where two are equally near, and shown with milliseconds, the rest cut off, as date and time of
the proleptic Gregorian calendar in UTC.
-/

namespace Tapeline

namespace Log

/-- Why a time has no timestamp. -/
inductive ClockError where
  | notANumber
  | outOfRange
  | tooLarge
  | yearOutOfRange (year : Int)
deriving DecidableEq, Repr

/-- The words for each time that has no date. -/
def ClockError.message : ClockError → Text
  | notANumber => "Invalid value NaN (not a number)".toList
  | outOfRange => "timestamp out of range for platform time_t".toList
  | tooLarge => "[Errno 75] Value too large for defined data type".toList
  | yearOutOfRange year => "year ".toList ++ Text.ofInt year ++ " is out of range".toList

/-- A day of the calendar. -/
structure Date where
  year : Int
  month : Int
  day : Int
deriving DecidableEq, Repr

/-- The date a number of days after the start of 1970.  Years are counted from March, so that the
leap day is the last of its year. -/
def Date.ofDays (days : Int) : Date :=
  let shifted := days + 719468
  let era := shifted / 146097
  let dayOfEra := shifted % 146097
  let yearOfEra := (dayOfEra - dayOfEra / 1460 + dayOfEra / 36524 - dayOfEra / 146096) / 365
  let dayOfYear := dayOfEra - (365 * yearOfEra + yearOfEra / 4 - yearOfEra / 100)
  let monthFromMarch := (5 * dayOfYear + 2) / 153
  let day := dayOfYear - (153 * monthFromMarch + 2) / 5 + 1
  let month := if monthFromMarch < 10 then monthFromMarch + 3 else monthFromMarch - 9
  let year := yearOfEra + era * 400 + (if month ≤ 2 then 1 else 0)
  ⟨year, month, day⟩

/-- The integer nearest to a value, the even one of two equally near. -/
def roundHalfEven : Binary64 → Int
  | .finite negative m =>
    Binary64.signedUnits negative (Binary64.divNearest m.units Binary64.unitsPerOne)
  | _ => 0

/-- Whole seconds and the microseconds behind them. -/
def splitSeconds (seconds : Binary64) : Except ClockError (Int × Int) :=
  match seconds.truncate with
  | .error .notANumber => .error .notANumber
  | .error .infinite => .error .outOfRange
  | .ok whole =>
    let micros := roundHalfEven ((seconds - .ofInt whole) * .ofNat 1000000)
    let (whole, micros) :=
      if 1000000 ≤ micros then (whole + 1, micros - 1000000)
      else if micros < 0 then (whole - 1, micros + 1000000)
      else (whole, micros)
    if -2 ^ 63 ≤ whole && whole < 2 ^ 63 then .ok (whole, micros) else .error .outOfRange

/-- A number that is not negative, padded to a width. -/
def padded (width : Nat) (n : Int) : Text :=
  Text.padStart width '0' (Text.ofNat n.toNat)

/-- A time as date and time of day with milliseconds. -/
def timestamp (seconds : Binary64) : Except ClockError Text := do
  let (whole, micros) ← splitSeconds seconds
  let date := Date.ofDays (whole / 86400)
  let second := whole % 86400
  if date.year - 1900 < -2 ^ 31 || 2 ^ 31 ≤ date.year - 1900 then throw .tooLarge
  if date.year < 1 || 9999 < date.year then throw (.yearOutOfRange date.year)
  return padded 4 date.year ++ ['-'] ++ padded 2 date.month ++ ['-'] ++ padded 2 date.day ++
    ['T'] ++ padded 2 (second / 3600) ++ [':'] ++ padded 2 (second / 60 % 60) ++ [':'] ++
    padded 2 (second % 60) ++ ['.'] ++ padded 3 (micros / 1000) ++ ['Z']

end Log

end Tapeline
