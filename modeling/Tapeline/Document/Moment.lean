import Tapeline.Text.Quoted

/-!
# Dates and times in documents

A document may hold a date, a time of day, or both with or without a distance from UTC.  Each is
checked when it is made, and has a plain text and one that shows how it is made up.
-/

namespace Tapeline

namespace Document

/-- Why numbers make no date or time. -/
inductive MomentError where
  | year (n : Nat)
  | month
  | day
  | hour
  | minute
  | second
  | offset (shown : Text)
deriving DecidableEq, Repr

/-- The words for each part that is out of its range. -/
def MomentError.message : MomentError → Text
  | year n => "year ".toList ++ Text.ofNat n ++ " is out of range".toList
  | month => "month must be in 1..12".toList
  | day => "day is out of range for month".toList
  | hour => "hour must be in 0..23".toList
  | minute => "minute must be in 0..59".toList
  | second => "second must be in 0..59".toList
  | offset shown =>
    "offset must be a timedelta strictly between -timedelta(hours=24) and ".toList ++
      "timedelta(hours=24), not ".toList ++ shown

/-- A date. -/
structure Date where
  year : Nat
  month : Nat
  day : Nat
deriving DecidableEq, Repr

/-- A time of day. -/
structure Time where
  hour : Nat
  minute : Nat
  second : Nat
  micros : Nat
deriving DecidableEq, Repr

/-- A year with a leap day. -/
def isLeapYear (year : Nat) : Bool :=
  year % 4 = 0 && (year % 100 != 0 || year % 400 = 0)

/-- The number of days in a month. -/
def daysInMonth (year month : Nat) : Nat :=
  if month = 2 then if isLeapYear year then 29 else 28
  else if [4, 6, 9, 11].contains month then 30 else 31

/-- The number of days from the start of the calendar up to a date. -/
def Date.dayNumber (d : Date) : Nat :=
  let years := d.year - 1
  let months := (List.range (d.month - 1)).map fun n => daysInMonth d.year (n + 1)
  365 * years + years / 4 - years / 100 + years / 400 + months.foldl (· + ·) 0 + d.day

/-- The number of microseconds from the start of a day up to a time. -/
def Time.micros_ (t : Time) : Nat :=
  ((t.hour * 60 + t.minute) * 60 + t.second) * 1000000 + t.micros

/-- A date that the calendar has. -/
def Date.make (year month day : Nat) : Except MomentError Date :=
  if year < 1 || 9999 < year then .error (.year year)
  else if month < 1 || 12 < month then .error .month
  else if day < 1 || daysInMonth year month < day then .error .day
  else .ok ⟨year, month, day⟩

/-- A time that the clock shows. -/
def Time.make (hour minute second micros : Nat) : Except MomentError Time :=
  if 23 < hour then .error .hour
  else if 59 < minute then .error .minute
  else if 59 < second then .error .second
  else .ok ⟨hour, minute, second, micros⟩

/-- A span of minutes, shown as days and seconds that are not negative. -/
def spanText (minutes : Int) : Text :=
  let days := minutes / 1440
  let seconds := minutes % 1440 * 60
  let parts :=
    (if days = 0 then [] else ["days=".toList ++ Text.ofInt days]) ++
      (if seconds = 0 then [] else ["seconds=".toList ++ Text.ofInt seconds])
  let body := if parts.isEmpty then ['0'] else [',', ' '].intercalate parts
  "datetime.timedelta(".toList ++ body ++ [')']

/-- A distance from UTC of less than a day. -/
def checkOffset (minutes : Int) : Except MomentError Int :=
  if -1440 < minutes && minutes < 1440 then .ok minutes else .error (.offset (spanText minutes))

/-- A number padded to a width. -/
def paddedNat (width n : Nat) : Text :=
  Text.padStart width '0' (Text.ofNat n)

/-- A date as text. -/
def Date.text (d : Date) : Text :=
  paddedNat 4 d.year ++ ['-'] ++ paddedNat 2 d.month ++ ['-'] ++ paddedNat 2 d.day

/-- A time as text, with microseconds if there are any. -/
def Time.text (t : Time) : Text :=
  paddedNat 2 t.hour ++ [':'] ++ paddedNat 2 t.minute ++ [':'] ++ paddedNat 2 t.second ++
    (if t.micros = 0 then [] else '.' :: paddedNat 6 t.micros)

/-- A distance from UTC as text. -/
def offsetText (minutes : Int) : Text :=
  (if minutes < 0 then '-' else '+') :: paddedNat 2 (minutes.natAbs / 60) ++ [':'] ++
    paddedNat 2 (minutes.natAbs % 60)

/-- Something a document says about time. -/
inductive Moment where
  | date (d : Date)
  | time (t : Time)
  | dateTime (d : Date) (t : Time) (offset : Option Int)
deriving DecidableEq, Repr

namespace Moment

/-- A moment as text. -/
def text : Moment → Text
  | date d => d.text
  | time t => t.text
  | dateTime d t offset =>
    d.text ++ [' '] ++ t.text ++ ((offset.map offsetText).getD [])

/-- Are two moments the same?  Two that have a distance from UTC are if they are one instant. -/
def isSame : Moment → Moment → Bool
  | dateTime d t (some offset), dateTime d' t' (some offset') =>
    instant d t offset = instant d' t' offset'
  | m, m' => m = m'
where
  /-- The microseconds up to a moment of UTC. -/
  instant (d : Date) (t : Time) (offset : Int) : Int :=
    ((d.dayNumber * 1440 : Nat) - offset) * 60000000 + t.micros_

/-- The name of the type of a moment. -/
def typeName : Moment → Text
  | date _ => "datetime.date".toList
  | time _ => "datetime.time".toList
  | dateTime _ _ _ => "datetime.datetime".toList

/-- The numbers of a time; seconds and microseconds are left out at the end if they are zero. -/
def timeNumbers (t : Time) : List Nat :=
  [t.hour, t.minute] ++
    (if t.micros != 0 then [t.second, t.micros] else if t.second != 0 then [t.second] else [])

/-- The numbers of a date. -/
def dateNumbers (d : Date) : List Nat :=
  [d.year, d.month, d.day]

/-- A distance from UTC as it is shown. -/
def offsetShown (minutes : Int) : Text :=
  if minutes = 0 then "datetime.timezone.utc".toList
  else "datetime.timezone(".toList ++ spanText minutes ++ [')']

/-- A moment as it is shown: its type and its numbers. -/
def shown (m : Moment) : Text :=
  let numbers :=
    match m with
    | date d => (dateNumbers d).map Text.ofNat
    | time t => (timeNumbers t).map Text.ofNat
    | dateTime d t offset =>
      (dateNumbers d ++ timeNumbers t).map Text.ofNat ++
        ((offset.map fun minutes => ["tzinfo=".toList ++ offsetShown minutes]).getD [])
  m.typeName ++ ['('] ++ [',', ' '].intercalate numbers ++ [')']

end Moment

end Document

end Tapeline
