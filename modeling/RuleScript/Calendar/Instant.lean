import RuleScript.Calendar.Date

/-!
Points in time: a day, a second of the day and nanoseconds. In a leap second the second stays at
the last of its minute and the nanoseconds go on past one thousand million.
-/
namespace RuleScript

structure Instant where
  date : Date
  second : Nat
  nanos : Nat
  deriving DecidableEq, Repr

namespace Instant

def secondsPerDay : Int := 86400

/-- Milliseconds since the start of 1970. -/
def millis (instant : Instant) : Int :=
  (instant.date.dayNumber * secondsPerDay + instant.second) * 1000 + instant.nanos / 1000000

/-- The instant a number of seconds after the start of 1970. -/
def ofSeconds? (seconds : Int) (nanos : Nat) : Option Instant := do
  let date ← Date.ofDayNumber? (seconds / secondsPerDay)
  pure ⟨date, (seconds % secondsPerDay).toNat, nanos⟩

/-- The instant a number of milliseconds after the start of 1970, when the calendar has it. -/
def ofMillis? (millis : Int) : Option Instant :=
  ofSeconds? (millis / 1000) ((millis % 1000).toNat * 1000000)

/-- The same instant when the clock that showed it was ahead by some seconds. -/
def behind? (instant : Instant) (ahead : Int) : Option Instant :=
  ofSeconds? (instant.date.dayNumber * secondsPerDay + instant.second - ahead) instant.nanos

/-- The instant with a date and the reading of a clock. A second of 60 is a leap second. -/
def ofClock? (date : Date) (hour minute second nanos : Nat) : Option Instant :=
  if hour < 24 && minute < 60 && second ≤ 60 then
    if second = 60 then some ⟨date, hour * 3600 + minute * 60 + 59, 1000000000 + nanos⟩
    else some ⟨date, hour * 3600 + minute * 60 + second, nanos⟩
  else none

end Instant
end RuleScript
