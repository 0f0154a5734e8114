-- SUMMARY: Dates and times of configuration documents and their texts.
import LispLex.Text.Numeral

/-!
# Dates and times

The moments that a configuration may name: a day, a time of day, or both, with or without the offset
from universal time. A moment has a text of its own, and another one that says in messages what it is
made of.
-/

namespace LispLex

/-- Decimal digits with leading zeros up to `width`. -/
def paddedDecimal (width n : Nat) : Text :=
  let digits := decimal n
  List.replicate (width - digits.length) '0' ++ digits

-- ---------------------------------------------------------------------------
-- Days
-- ---------------------------------------------------------------------------

def isLeapYear (year : Nat) : Bool :=
  year % 4 == 0 && (year % 100 != 0 || year % 400 == 0)

/-- How many days a month of a year has. -/
def monthLength (year month : Nat) : Nat :=
  if month = 2 then (if isLeapYear year then 29 else 28)
  else if month ∈ [4, 6, 9, 11] then 30
  else 31

/-- A day of the calendar, from the year 1 on. -/
structure Day where
  year : Nat
  month : Nat
  day : Nat
  year_pos : 0 < year
  month_pos : 0 < month
  month_le : month ≤ 12
  day_pos : 0 < day
  day_le : day ≤ monthLength year month
  deriving DecidableEq, Repr

/-- The day with the given numbers, if the calendar has it. -/
def Day.ofNumbers? (year month day : Nat) : Option Day :=
  if h : 0 < year ∧ 0 < month ∧ month ≤ 12 ∧ 0 < day ∧ day ≤ monthLength year month then
    some ⟨year, month, day, h.1, h.2.1, h.2.2.1, h.2.2.2.1, h.2.2.2.2⟩
  else none

def Day.toText (day : Day) : Text :=
  ['-'].intercalate [paddedDecimal 4 day.year, paddedDecimal 2 day.month, paddedDecimal 2 day.day]

-- ---------------------------------------------------------------------------
-- Times of day
-- ---------------------------------------------------------------------------

structure TimeOfDay where
  hour : Nat
  minute : Nat
  second : Nat
  microsecond : Nat
  deriving DecidableEq, Repr

def TimeOfDay.toText (time : TimeOfDay) : Text :=
  [':'].intercalate ([time.hour, time.minute, time.second].map (paddedDecimal 2)) ++
    if time.microsecond = 0 then [] else '.' :: paddedDecimal 6 time.microsecond

/-- The numbers that make up the time, without zeros at the end for seconds and what is below. -/
def TimeOfDay.numbers (time : TimeOfDay) : List Nat :=
  [time.hour, time.minute] ++
    if time.microsecond ≠ 0 then [time.second, time.microsecond]
    else if time.second ≠ 0 then [time.second]
    else []

/-- The minutes that a local time is ahead of universal time. -/
abbrev Offset := Int

def Offset.toText (offset : Offset) : Text :=
  (if offset < 0 then '-' else '+') ::
    [':'].intercalate ([offset.natAbs / 60, offset.natAbs % 60].map (paddedDecimal 2))

-- ---------------------------------------------------------------------------
-- Moments
-- ---------------------------------------------------------------------------

inductive Moment where
  | onDay (day : Day)
  | atTime (time : TimeOfDay)
  | onDayAt (day : Day) (time : TimeOfDay) (offset : Option Offset)
  deriving DecidableEq, Repr

namespace Moment

def toText : Moment → Text
  | .onDay day => day.toText
  | .atTime time => time.toText
  | .onDayAt day time offset =>
    day.toText ++ [' '] ++ time.toText ++ (offset.map Offset.toText).getD []

/-- What a part of a moment is made of. -/
def construction (name : String) (parts : List Text) : Text :=
  "datetime.".toList ++ name.toList ++ ['('] ++ [',', ' '].intercalate parts ++ [')']

def offsetConstruction (offset : Offset) : Text :=
  if offset = 0 then "datetime.timezone.utc".toList
  else
    -- a day is taken off and what is then left over is counted in seconds
    let days := if offset < 0 then ["days=-1".toList] else []
    let seconds := (60 * offset % 86400).toNat
    construction "timezone"
      [construction "timedelta" (days ++ ["seconds=".toList ++ decimal seconds])]

/-- The text of a moment in messages. -/
def shown : Moment → Text
  | .onDay day => construction "date" ([day.year, day.month, day.day].map decimal)
  | .atTime time => construction "time" (time.numbers.map decimal)
  | .onDayAt day time offset =>
    construction "datetime" (([day.year, day.month, day.day] ++ time.numbers).map decimal ++
      (offset.map fun offset => "tzinfo=".toList ++ offsetConstruction offset).toList)

end Moment

-- ---------------------------------------------------------------------------
-- Reading
-- ---------------------------------------------------------------------------

namespace Moment

/-- A number of exactly `count` digits from `low` to `high`. -/
def fixedNumber? (count low high : Nat) (text : Text) : Option (Nat × Text) := do
  let digits := (text.take count).filterMap asciiDigit?
  guard (digits.length = count)
  let n := ofDigits 10 digits
  guard (low ≤ n && n ≤ high)
  return (n, text.drop count)

/-- The text behind a character that is one of those expected. -/
def skipOne? (expected : List Char) : Text → Option Text
  | c :: rest => if c ∈ expected then some rest else none
  | [] => none

/-- The microseconds behind a point; digits beyond the sixth do not count. -/
def microseconds (text : Text) : Nat × Text :=
  match text with
  | '.' :: rest =>
    match rest.takeWhile fun c => (asciiDigit? c).isSome with
    | [] => (0, text)
    | digits =>
      let counted := (digits.take 6).filterMap asciiDigit?
      (ofDigits 10 (counted ++ List.replicate (6 - counted.length) 0), rest.drop digits.length)
  | _ => (0, text)

def timeOfDay? (text : Text) : Option (TimeOfDay × Text) := do
  let (hour, text) ← fixedNumber? 2 0 23 text
  let (minute, text) ← fixedNumber? 2 0 59 (← skipOne? [':'] text)
  let (second, text) ← fixedNumber? 2 0 59 (← skipOne? [':'] text)
  let (microsecond, text) := microseconds text
  return (⟨hour, minute, second, microsecond⟩, text)

/-- An offset written as a letter for universal time or as a sign with hours and minutes. -/
def offset? : Text → Option (Offset × Text)
  | sign :: rest =>
    if sign ∈ ['Z', 'z'] then some (0, rest)
    else do
      guard (sign == '+' || sign == '-')
      let (hours, rest) ← fixedNumber? 2 0 23 rest
      let (minutes, rest) ← fixedNumber? 2 0 59 (← skipOne? [':'] rest)
      let size : Int := 60 * hours + minutes
      return (if sign == '-' then -size else size, rest)
  | [] => none

/-- The numbers of a day; the calendar need not have it. -/
def dayNumbers? (text : Text) : Option ((Nat × Nat × Nat) × Text) := do
  let (year, text) ← fixedNumber? 4 0 9999 text
  let (month, text) ← fixedNumber? 2 1 12 (← skipOne? ['-'] text)
  let (day, text) ← fixedNumber? 2 1 31 (← skipOne? ['-'] text)
  return ((year, month, day), text)

/-- The time of day that a letter or a space joins to a day. -/
def joinedTime? (text : Text) : Option (TimeOfDay × Text) := do
  timeOfDay? (← skipOne? ['T', 't', ' '] text)

/-- The moment at the start of a text and the text behind it; none in the first place if the calendar
has no such day. -/
def read? (text : Text) : Option (Option Moment × Text) :=
  match dayNumbers? text with
  | none => (timeOfDay? text).map fun (time, rest) => (some (.atTime time), rest)
  | some ((year, month, day), rest) =>
    let day := Day.ofNumbers? year month day
    match joinedTime? rest with
    | none => some (day.map .onDay, rest)
    | some (time, rest) =>
      match offset? rest with
      | none => some (day.map (.onDayAt · time none), rest)
      | some (offset, rest) => some (day.map (.onDayAt · time (some offset)), rest)

end Moment

end LispLex
