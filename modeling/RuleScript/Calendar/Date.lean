import RuleScript.Bounds

/-!
Dates of the Gregorian calendar, carried back before its introduction, from the start of the year
-262143 to the end of the year 262142. Days are numbered from the first of January 1970.
-/
namespace RuleScript

/-- A year has a leap day. -/
def isLeapYear (year : Int) : Bool :=
  year % 4 == 0 && (year % 100 != 0 || year % 400 == 0)

/-- The lengths of the months of a year. -/
def monthLengths (year : Int) : List Nat :=
  [31, if isLeapYear year then 29 else 28, 31, 30, 31, 30, 31, 31, 30, 31, 30, 31]

/-- The length of a month counted from one; zero when there is no such month. -/
def monthLength (year : Int) (month : Nat) : Nat :=
  if month = 0 then 0 else ((monthLengths year)[month - 1]?).getD 0

structure Date where
  year : Int
  month : Nat
  day : Nat
  deriving DecidableEq, Repr

namespace Date

/-- The years of the calendar. -/
def inRange (year : Int) : Bool :=
  -262143 ≤ year && year ≤ 262142

/-- The date with a year, month and day, when the calendar has it. -/
def of? (year : Int) (month day : Nat) : Option Date :=
  if inRange year && 1 ≤ day && day ≤ monthLength year month then some ⟨year, month, day⟩ else none

/-- Days from the first day of the year 1 to the first day of a year. -/
def daysBeforeYear (year : Int) : Int :=
  let past := year - 1
  365 * past + past / 4 - past / 100 + past / 400

/-- The number of the first day of 1970, counted from the first day of the year 1. -/
def epochDay : Int := 719162

/-- The day of the year, from one on. -/
def ordinal (date : Date) : Nat :=
  ((monthLengths date.year).take (date.month - 1)).foldl Nat.add date.day

/-- The number of a date. -/
def dayNumber (date : Date) : Int :=
  daysBeforeYear date.year - epochDay + date.ordinal - 1

/-- The month and day on which a number of days from the start of a year falls. -/
def monthAndDay : (lengths : List Nat) → (month days : Nat) → Nat × Nat
  | [], month, days => (month, days + 1)
  | length :: rest, month, days =>
    if days < length then (month, days + 1) else monthAndDay rest (month + 1) (days - length)

/-- The year on which a number of days from the start of the year 1 falls, and the days left. -/
def yearAndDays (days : Int) : Int × Nat :=
  let cycle := days / 146097
  let inCycle := (days % 146097).toNat
  let century := min 3 (inCycle / 36524)
  let inCentury := inCycle - century * 36524
  let leapCycle := inCentury / 1461
  let inLeapCycle := inCentury % 1461
  let year := min 3 (inLeapCycle / 365)
  (400 * cycle + 100 * century + 4 * leapCycle + year + 1, inLeapCycle - year * 365)

/-- The date with a number, when the calendar has it. -/
def ofDayNumber? (number : Int) : Option Date :=
  let (year, days) := yearAndDays (number + epochDay)
  let (month, day) := monthAndDay (monthLengths year) 1 days
  if inRange year then some ⟨year, month, day⟩ else none

end Date

/-- The length of the month that lies some months after a given one: the days from its first to the
first of the next. There is none when either day is outside the calendar. -/
def daysInMonth? (year : Int) (month : Nat) (offset : Int) : Option Int := do
  let total := year * 12 + month - 1 + offset
  if fitsInt64 total then
    let shiftedYear := total / 12
    let shiftedMonth := (total % 12).toNat + 1
    let first ← Date.of? shiftedYear shiftedMonth 1
    let next ← if shiftedMonth = 12 then Date.of? (shiftedYear + 1) 1 1
      else Date.of? shiftedYear (shiftedMonth + 1) 1
    pure (next.dayNumber - first.dayNumber)
  else none

end RuleScript
