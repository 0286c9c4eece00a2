/-
Module: TaskGraph.Yaml.Timestamp
Purpose: Texts that write a day or a moment.
Main exports:
  Yaml.Timestamp, Timestamp.parse?, Timestamp.isUsual, Timestamp.value
-/
import TaskGraph.Decimal.Notation
import TaskGraph.Error

namespace TaskGraph.Yaml

/-- The distance of a clock from universal time: its sign, hours and minutes. -/
structure Clock where
  behind : Bool
  hours : List Char
  minutes : List Char
deriving DecidableEq, Repr, Inhabited

/-- The digits of a time of a day; the clock where one is named, universal time having
no distance. -/
structure TimeOfDay where
  hour : List Char
  minute : List Char
  second : List Char
  fraction : List Char
  clock : Option Clock
deriving DecidableEq, Repr, Inhabited

/-- The digits of a day, and of a time where there is one. -/
structure Timestamp where
  year : List Char
  month : List Char
  day : List Char
  time : Option TimeOfDay
deriving DecidableEq, Repr, Inhabited

namespace Timestamp

/-! ### Reading -/

/-- At least `least` digits at the start of a text, and `most` at the most. -/
def digits? (least most : Nat) (cs : List Char) : Option (List Char × List Char) :=
  let found := (cs.take most).takeWhile Text.isPlainDigit
  if least ≤ found.length then some (found, cs.drop found.length) else none

/-- The text after a character that has to stand at its start. -/
def expect? (c : Char) (cs : List Char) : Option (List Char) :=
  match cs with
  | d :: rest => if d = c then some rest else none
  | [] => none

/-- A space or a tab. -/
def isSpace (c : Char) : Bool :=
  c == ' ' || c == '\t'

/-- Nothing is left of a text but perhaps one break. -/
def isEnd (cs : List Char) : Bool :=
  cs == [] || cs == ['\n']

/-- The fraction of a second at the start of a text, if a point stands there. -/
def fraction (cs : List Char) : List Char × List Char :=
  match cs with
  | '.' :: rest => (rest.takeWhile Text.isPlainDigit, rest.dropWhile Text.isPlainDigit)
  | _ => ([], cs)

/-- The hours and perhaps minutes of a clock, up to the end of a text. -/
def clockDistance? (behind : Bool) (cs : List Char) : Option Clock := do
  let (hours, cs) ← digits? 1 2 cs
  if isEnd cs then some ⟨behind, hours, []⟩
  else
    let cs ← expect? ':' cs
    let (minutes, cs) ← digits? 2 2 cs
    if isEnd cs then some ⟨behind, hours, minutes⟩ else none

/-- The clock at the end of a text, where one is named. -/
def clock? (cs : List Char) : Option (Option Clock) :=
  if isEnd cs then some none
  else match cs.dropWhile isSpace with
    | 'Z' :: rest => if isEnd rest then some (some ⟨false, [], []⟩) else none
    | '+' :: rest => (clockDistance? false rest).map some
    | '-' :: rest => (clockDistance? true rest).map some
    | _ => none

/-- The time of a day at the end of a text. -/
def time? (cs : List Char) : Option TimeOfDay := do
  let (hour, cs) ← digits? 1 2 cs
  let cs ← expect? ':' cs
  let (minute, cs) ← digits? 2 2 cs
  let cs ← expect? ':' cs
  let (second, cs) ← digits? 2 2 cs
  let (fraction, cs) := fraction cs
  let clock ← clock? cs
  return ⟨hour, minute, second, fraction, clock⟩

/-- What stands between a day and a time: a letter, or spaces and tabs. -/
def afterDay? (cs : List Char) : Option (List Char) :=
  match cs with
  | c :: rest =>
    if c = 'T' ∨ c = 't' then some rest
    else if isSpace c then some (rest.dropWhile isSpace)
    else none
  | [] => none

/-- The parts of a text that writes a day, or a day and a time. -/
def parse? (cs : List Char) : Option Timestamp := do
  let (year, cs) ← digits? 4 4 cs
  let cs ← expect? '-' cs
  let (month, cs) ← digits? 1 2 cs
  let cs ← expect? '-' cs
  let (day, cs) ← digits? 1 2 cs
  if isEnd cs then some ⟨year, month, day, none⟩
  else
    let time ← time? (← afterDay? cs)
    return ⟨year, month, day, some time⟩

/-- A day alone is told from other texts only where month and day have two digits. -/
def isUsual (t : Timestamp) : Bool :=
  t.time.isSome || (t.month.length == 2 && t.day.length == 2)

/-! ### Values -/

/-- The microseconds that the first six digits of a fraction write. -/
def microseconds (fraction : List Char) : Nat :=
  let kept := fraction.take 6
  Decimal.plainValue (kept ++ List.replicate (6 - kept.length) '0')

/-- The distance of a clock in minutes, which has to be less than a day. -/
def clockOffset (clock : Clock) : Except CalendarFault Int :=
  let distance : Int := Decimal.plainValue clock.hours * 60 + Decimal.plainValue clock.minutes
  let minutes := if clock.behind then -distance else distance
  if distance < 24 * 60 then .ok minutes else .error (.offset minutes)

/-- The moment at a time of a day; the clock is looked at first. -/
def moment (t : Timestamp) (time : TimeOfDay) : Except CalendarFault Value := do
  let offset ← time.clock.mapM clockOffset
  let date ← Date.make (Decimal.plainValue t.year) (Decimal.plainValue t.month)
    (Decimal.plainValue t.day)
  let moment ← Moment.make date (Decimal.plainValue time.hour) (Decimal.plainValue time.minute)
    (Decimal.plainValue time.second) (microseconds time.fraction) offset
  return .moment moment

/-- The day or the moment that is written, if it exists. -/
def value (t : Timestamp) : Except CalendarFault Value :=
  match t.time with
  | some time => t.moment time
  | none =>
    (Date.make (Decimal.plainValue t.year) (Decimal.plainValue t.month)
      (Decimal.plainValue t.day)).map .date

end Timestamp

end TaskGraph.Yaml
