/-!
The functions built into the language: their names, how many arguments they take, and a line of
help for each.
-/
namespace RuleScript

/-- How many arguments a function takes. -/
inductive Arity
  | exactly (n : Nat)
  | range (least most : Nat)
  | atLeast (n : Nat)
  deriving DecidableEq, Repr

namespace Arity

def accepts (arity : Arity) (count : Nat) : Bool :=
  match arity with
  | .exactly n => count == n
  | .range least most => least ≤ count && count ≤ most
  | .atLeast n => n ≤ count

/-- The number of arguments as a message gives it. -/
def describe : Arity → String
  | .exactly n => toString n
  | .range least most => toString least ++ " to " ++ toString most
  | .atLeast n => "at least " ++ toString n

end Arity

inductive Builtin
  | sin
  | cos
  | asin
  | acos
  | tan
  | atan
  | exp
  | ln
  | log
  | neg
  | abs
  | sqrt
  | round
  | floor
  | ceil
  | min
  | max
  | size
  | isString
  | isNumeric
  | isArray
  | isNull
  | toArray
  | toString
  | toNumber
  | day
  | month
  | year
  | dayOfYear
  | daysInMonth
  | now
  | iso
  | daysBeforeNow
  | hoursBeforeNow
  | debug
  deriving DecidableEq, Repr

namespace Builtin

/-- Every built-in function, in the order of the help. -/
def all : List Builtin :=
  [.sin, .cos, .asin, .acos, .tan, .atan, .exp, .ln, .log, .neg, .abs, .sqrt, .round, .floor,
   .ceil, .min, .max, .size, .isString, .isNumeric, .isArray, .isNull, .toArray, .toString,
   .toNumber, .day, .month, .year, .dayOfYear, .daysInMonth, .now, .iso, .daysBeforeNow,
   .hoursBeforeNow, .debug]

/-- The name a script calls the function by. -/
def name : Builtin → String
  | .sin => "sin"
  | .cos => "cos"
  | .asin => "asin"
  | .acos => "acos"
  | .tan => "tan"
  | .atan => "atan"
  | .exp => "exp"
  | .ln => "ln"
  | .log => "log"
  | .neg => "neg"
  | .abs => "abs"
  | .sqrt => "sqrt"
  | .round => "round"
  | .floor => "floor"
  | .ceil => "ceil"
  | .min => "min"
  | .max => "max"
  | .size => "size"
  | .isString => "is_string"
  | .isNumeric => "is_numeric"
  | .isArray => "is_array"
  | .isNull => "is_null"
  | .toArray => "to_array"
  | .toString => "to_string"
  | .toNumber => "to_number"
  | .day => "day"
  | .month => "month"
  | .year => "year"
  | .dayOfYear => "day_of_year"
  | .daysInMonth => "days_in_month"
  | .now => "now"
  | .iso => "iso"
  | .daysBeforeNow => "days_before_now"
  | .hoursBeforeNow => "hours_before_now"
  | .debug => "debug"

/-- The function with exactly the given name. -/
def ofName? (name : String) : Option Builtin :=
  all.find? (·.name == name)

def arity : Builtin → Arity
  | .round => .range 1 2
  | .min => .atLeast 1
  | .max => .atLeast 1
  | .toArray => .atLeast 0
  | .day => .range 0 1
  | .month => .range 0 1
  | .year => .range 0 1
  | .dayOfYear => .range 0 1
  | .daysInMonth => .range 0 1
  | .now => .exactly 0
  | _ => .exactly 1

/-- A line of help. -/
def summary : Builtin → String
  | .sin => "sin(x): sine of x radians"
  | .cos => "cos(x): cosine of x radians"
  | .asin => "asin(x): arc sine, in radians"
  | .acos => "acos(x): arc cosine, in radians"
  | .tan => "tan(x): tangent of x radians"
  | .atan => "atan(x): arc tangent, in radians"
  | .exp => "exp(x): e raised to x"
  | .ln => "ln(x): natural logarithm"
  | .log => "log(x): base-10 logarithm"
  | .neg => "neg(x): -x"
  | .abs => "abs(x): absolute value"
  | .sqrt => "sqrt(x): square root"
  | .round => "round(x[, digits]): round with the configured rounding mode"
  | .floor => "floor(x): largest integer <= x"
  | .ceil => "ceil(x): smallest integer >= x"
  | .min => "min(a, ...): smallest argument (or array element)"
  | .max => "max(a, ...): largest argument (or array element)"
  | .size => "size(x): element count of an array, character count of a string"
  | .isString => "is_string(x): true for strings"
  | .isNumeric => "is_numeric(x): true for numbers"
  | .isArray => "is_array(x): true for arrays"
  | .isNull => "is_null(x): true for null"
  | .toArray => "to_array(a, ...): array of the arguments"
  | .toString => "to_string(x): text form of x"
  | .toNumber => "to_number(x): number parsed from x, or null"
  | .day => "day([date]): day of month (1-31)"
  | .month => "month([date]): month (1-12)"
  | .year => "year([date]): calendar year"
  | .dayOfYear => "day_of_year([date]): day of year (1-366)"
  | .daysInMonth =>
    "days_in_month([offset | date]): days in the current month shifted by offset months, " ++
      "or in date's month"
  | .now => "now(): current time in epoch milliseconds"
  | .iso => "iso(text): ISO-8601 date/time to epoch milliseconds"
  | .daysBeforeNow => "days_before_now(date): whole days between date and now"
  | .hoursBeforeNow => "hours_before_now(date): whole hours between date and now"
  | .debug => "debug(x): log x, returns null"

end Builtin
end RuleScript
