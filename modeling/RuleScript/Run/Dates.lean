import RuleScript.Calendar.Iso
import RuleScript.Run.Error
import RuleScript.Script.Builtin
import RuleScript.Value

/-!
The built-in functions on dates. A date is given as ISO 8601 text or as milliseconds since the
start of 1970; where it may be left out, the current time stands in.
-/
namespace RuleScript.Dates

def millisPerDay : Int := 86400000

def millisPerHour : Int := 3600000

/-- The instant that a value gives. -/
def instant? : Value → Option Instant
  | .text s => Instant.ofIso? s
  | .number n => n.toInt64?.bind Instant.ofMillis?
  | _ => none

/-- The instant that the arguments give: the current time when there are none. -/
def argument? (now : Instant) : List Value → Option Instant
  | [] => some now
  | value :: _ => instant? value

/-- A whole number, or null. -/
def numberOrNull : Option Int → Value
  | some n => .ofInt n
  | none => .null

/-- The length of a month: the current one shifted by a number of months, or the one of a date. -/
def monthDays? (now : Instant) : List Value → Option Int
  | [] => daysInMonth? now.date.year now.date.month 0
  | .number offset :: _ =>
    offset.toInt64?.bind (daysInMonth? now.date.year now.date.month)
  | value :: _ =>
    (instant? value).bind fun found => daysInMonth? found.date.year found.date.month 0

/-- Whole units of time from a date to now, toward zero. -/
def elapsed? (now unit : Int) (value : Value) : Option Int :=
  (instant? value).map fun found => (now - found.millis).tdiv unit

/-- The milliseconds that a text gives; a number is taken as it stands. -/
def iso : Value → Value
  | .text s => numberOrNull ((Instant.ofIso? s).map Instant.millis)
  | .number n => .number n
  | _ => .null

/-- Applies a function on dates at a time that the calendar has. -/
def applyAt (now : Int) (current : Instant) (function : Builtin) (values : List Value) :
    Except EvalError Value :=
  match function, values with
  | .day, _ => .ok (numberOrNull ((argument? current values).map fun d => d.date.day))
  | .month, _ => .ok (numberOrNull ((argument? current values).map fun d => d.date.month))
  | .year, _ => .ok (numberOrNull ((argument? current values).map fun d => d.date.year))
  | .dayOfYear, _ => .ok (numberOrNull ((argument? current values).map fun d => d.date.ordinal))
  | .daysInMonth, _ => .ok (numberOrNull (monthDays? current values))
  | .now, _ => .ok (.ofInt now)
  | .iso, value :: _ => .ok (iso value)
  | .daysBeforeNow, value :: _ => .ok (numberOrNull (elapsed? now millisPerDay value))
  | .hoursBeforeNow, value :: _ => .ok (numberOrNull (elapsed? now millisPerHour value))
  | _, _ => .error (.internal (function.name ++ "() is not a date function"))

/-- Applies a function on dates. The current time must lie in the calendar. -/
def apply (now : Int) (function : Builtin) (values : List Value) : Except EvalError Value :=
  match Instant.ofMillis? now with
  | some current => applyAt now current function values
  | none => .error (.internal ("clock time " ++ toString now ++ " is out of range"))

end RuleScript.Dates
