/-
Module: TaskGraph.Calendar
Purpose: Calendar days and moments, which days exist, and how both are shown.
Main exports:
  Date, Moment, CalendarFault, Date.make, Moment.make, Moment.instant
-/
import TaskGraph.Text.Numeral

namespace TaskGraph

/-- A day of the calendar. -/
structure Date where
  year : Nat
  month : Nat
  day : Nat
deriving DecidableEq, Repr, Inhabited

/-- A time of a day, with the distance of its clock from universal time in
minutes, where that is known. -/
structure Moment where
  date : Date
  hour : Nat
  minute : Nat
  second : Nat
  microsecond : Nat
  offset : Option Int
deriving DecidableEq, Repr, Inhabited

/-- Why a date or a moment does not exist. -/
inductive CalendarFault where
  | year (value : Nat)
  | month
  | day
  | hour
  | minute
  | second
  /-- A clock differs from universal time by a day or more. -/
  | offset (minutes : Int)
deriving DecidableEq, Repr, Inhabited

namespace Date

/-- The days of a month, with leap years of the Gregorian calendar. -/
def daysIn (year month : Nat) : Nat :=
  if month = 2 then
    if year % 4 = 0 ∧ (year % 100 ≠ 0 ∨ year % 400 = 0) then 29 else 28
  else if month ∈ [4, 6, 9, 11] then 30
  else 31

/-- The day with these numbers, if it exists. -/
def make (year month day : Nat) : Except CalendarFault Date :=
  if year < 1 ∨ 9999 < year then .error (.year year)
  else if month < 1 ∨ 12 < month then .error .month
  else if day < 1 ∨ daysIn year month < day then .error .day
  else .ok ⟨year, month, day⟩

/-- The number of days before a year. -/
def daysBefore (year : Nat) : Nat :=
  let y := year - 1
  y * 365 + y / 4 - y / 100 + y / 400

/-- The number of the day, where that of the first day of the first year is one. -/
def dayNumber (d : Date) : Nat :=
  (List.range' 1 (d.month - 1)).foldl (fun days month => days + daysIn d.year month)
    (daysBefore d.year) + d.day

/-- The day as year, month and day between dashes. -/
def plain (d : Date) : String :=
  Text.padded 4 d.year ++ "-" ++ Text.padded 2 d.month ++ "-" ++ Text.padded 2 d.day

/-- The numbers of the day as arguments. -/
def arguments (d : Date) : List String :=
  [toString d.year, toString d.month, toString d.day]

/-- The day as an expression. -/
def shown (d : Date) : String :=
  "datetime.date(" ++ ", ".intercalate d.arguments ++ ")"

end Date

namespace Moment

/-- The moment with these numbers, if it exists. -/
def make (date : Date) (hour minute second microsecond : Nat) (offset : Option Int) :
    Except CalendarFault Moment :=
  if 23 < hour then .error .hour
  else if 59 < minute then .error .minute
  else if 59 < second then .error .second
  else .ok ⟨date, hour, minute, second, microsecond, offset⟩

/-- A clock's distance from universal time as signed hours and minutes. -/
def plainOffset (minutes : Int) : String :=
  (if minutes < 0 then "-" else "+") ++ Text.padded 2 (minutes.natAbs / 60) ++ ":" ++
    Text.padded 2 (minutes.natAbs % 60)

/-- The moment as day, time and the clock's distance from universal time. -/
def plain (m : Moment) : String :=
  m.date.plain ++ " " ++ Text.padded 2 m.hour ++ ":" ++ Text.padded 2 m.minute ++ ":" ++
    Text.padded 2 m.second ++
    (if m.microsecond = 0 then "" else "." ++ Text.padded 6 m.microsecond) ++
    (match m.offset with
      | some minutes => plainOffset minutes
      | none => "")

/-- A span of minutes as an expression, in days and seconds with the seconds not
negative. -/
def shownSpan (minutes : Int) : String :=
  let days := minutes.fdiv 1440
  let seconds := (minutes - days * 1440) * 60
  let parts := (if days = 0 then [] else ["days=" ++ toString days]) ++
    (if seconds = 0 then [] else ["seconds=" ++ toString seconds])
  "datetime.timedelta(" ++ (if parts.isEmpty then "0" else ", ".intercalate parts) ++ ")"

/-- A clock's distance from universal time as an expression. -/
def shownOffset (minutes : Int) : String :=
  if minutes = 0 then "datetime.timezone.utc"
  else "datetime.timezone(" ++ shownSpan minutes ++ ")"

/-- The moment as an expression.  Seconds and their fraction are left out where
they are zero. -/
def shown (m : Moment) : String :=
  let time := [toString m.hour, toString m.minute] ++
    (if m.microsecond ≠ 0 then [toString m.second, toString m.microsecond]
     else if m.second ≠ 0 then [toString m.second] else [])
  let clock := match m.offset with
    | some minutes => ["tzinfo=" ++ shownOffset minutes]
    | none => []
  "datetime.datetime(" ++ ", ".intercalate (m.date.arguments ++ time ++ clock) ++ ")"

/-! ### Instants -/

/-- The microseconds from midnight to the time of a moment. -/
def timeOfDay (m : Moment) : Nat :=
  ((m.hour * 60 + m.minute) * 60 + m.second) * 1000000 + m.microsecond

/-- The instant of a moment in microseconds: that of universal time where the distance of
the clock is known, and else what the clock shows. -/
def instant (m : Moment) : Int :=
  (m.date.dayNumber * 86400000000 + m.timeOfDay : Nat) - m.offset.getD 0 * 60000000

end Moment

/-- What a message says about a date that does not exist. -/
def CalendarFault.message : CalendarFault → String
  | .year value => s!"year {value} is out of range"
  | .month => "month must be in 1..12"
  | .day => "day is out of range for month"
  | .hour => "hour must be in 0..23"
  | .minute => "minute must be in 0..59"
  | .second => "second must be in 0..59"
  | .offset minutes =>
    "offset must be a timedelta strictly between -timedelta(hours=24) and " ++
      s!"timedelta(hours=24), not {Moment.shownSpan minutes}."

end TaskGraph
