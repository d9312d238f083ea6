import RuleScript.Run.Comparison
import RuleScript.Run.Dates

/-!
The built-in functions on values. A function of numbers takes a text that spells one, gives null
for null, a truth value or an array, and refuses any other text.
-/
namespace RuleScript.Builtin

/-- The number an argument stands for; none where the result is null. -/
def numericArgument (function : Builtin) : Value → Except EvalError (Option Decimal)
  | .number n => .ok (some n)
  | .text s =>
    match Decimal.numeral? s with
    | some n => .ok (some n)
    | none =>
      .error (.typeError (function.name ++ "() cannot convert \"" ++ s ++ "\" to a number"))
  | _ => .ok none

/-- A number rounded as the settings say, or null. -/
def rounded (settings : Settings) : Option Decimal → Value
  | some n => .number (settings.round n)
  | none => .null

/-- A function computed on decimals. -/
def exact (function : Builtin) (settings : Settings) (compute : Decimal → Option Decimal)
    (value : Value) : Except EvalError Value := do
  let argument ← function.numericArgument value
  pure (rounded settings (argument.bind compute))

/-- A function computed on doubles; without a finite result it is null. -/
def approximate (function : Builtin) (settings : Settings) (compute : Float → Float)
    (value : Value) : Except EvalError Value :=
  function.exact settings (fun n => Decimal.ofDouble? (compute n.toDouble)) value

/-- The number of digits to round to, between none and the most a number can carry. -/
def digits (value : Value) : Except EvalError Nat :=
  match value.int64? with
  | some n => .ok (Nat.min n.toNat Decimal.maxScale)
  | none =>
    .error (.typeError ("round() digits must be numeric, got '" ++ value.display ++ "'"))

/-- Rounds to a number of digits with the rounding mode of the settings. -/
def roundTo (settings : Settings) (value : Value) (places : Nat) : Except EvalError Value := do
  match ← Builtin.round.numericArgument value with
  | some n => pure (.number (n.round settings.rounding places))
  | none => pure .null

/-- The better of two values: the first, unless the second comes before it in the wanted order. -/
def better (function : Builtin) (wanted : Ordering) (current candidate : Value) :
    Except EvalError Value :=
  match candidate.order? current with
  | some order => .ok (if order = wanted then candidate else current)
  | none =>
    .error (.typeError (function.name ++ "() cannot compare " ++ candidate.kindName ++ " with " ++
      current.kindName))

/-- The best of some values. -/
def best (function : Builtin) (wanted : Ordering) : List Value → Except EvalError Value
  | [] => .ok .null
  | first :: rest => rest.foldlM (function.better wanted) first

/-- The least or greatest of the arguments, or of the items of a single array. Nulls are passed
over. -/
def extreme (function : Builtin) (wanted : Ordering) (values : List Value) :
    Except EvalError Value :=
  let candidates := match values with
    | [.array items] => items
    | _ => values
  function.best wanted (candidates.filter (!·.isNull))

/-- The number of items of an array or of characters of a text; null has none, and anything else
is one. -/
def sizeOf : Value → Nat
  | .array items => items.length
  | .text s => s.length
  | .null => 0
  | _ => 1

/-- The text of a value; null stays null. -/
def textOf (settings : Settings) : Value → Value
  | .null => .null
  | value => .text (value.render settings)

/-- The number of a value, or null. -/
def numberOf : Value → Value
  | .boolean b => .ofInt b.toNat
  | value =>
    match value.number? with
    | some n => .number n
    | none => .null

def isText : Value → Bool
  | .text _ => true
  | _ => false

def isNumber : Value → Bool
  | .number _ => true
  | _ => false

/-- A function of one argument that is not about dates. -/
def applyOne (function : Builtin) (settings : Settings) (value : Value) :
    Except EvalError Value :=
  match function with
  | .sin => function.approximate settings Float.sin value
  | .cos => function.approximate settings Float.cos value
  | .asin => function.approximate settings Float.asin value
  | .acos => function.approximate settings Float.acos value
  | .tan => function.approximate settings Float.tan value
  | .atan => function.approximate settings Float.atan value
  | .exp => function.approximate settings Float.exp value
  | .ln => function.approximate settings Float.log value
  | .log => function.approximate settings Float.log10 value
  | .neg => function.exact settings (fun n => some n.neg) value
  | .abs => function.exact settings (fun n => some n.abs) value
  | .sqrt => function.exact settings Decimal.sqrt? value
  | .floor => function.exact settings (fun n => some n.floor) value
  | .ceil => function.exact settings (fun n => some n.ceil) value
  | .size => .ok (.ofInt (sizeOf value))
  | .isString => .ok (.boolean (isText value))
  | .isNumeric => .ok (.boolean (isNumber value))
  | .isArray => .ok (.boolean value.isArray)
  | .isNull => .ok (.boolean value.isNull)
  | .toString => .ok (textOf settings value)
  | .toNumber => .ok (numberOf value)
  | .debug => .ok .null
  | _ => .error (.internal (function.name ++ "() takes no single argument"))

/-- Applies a function to its arguments. -/
def apply (function : Builtin) (settings : Settings) (values : List Value) :
    Except EvalError Value :=
  match function with
  | .day | .month | .year | .dayOfYear | .daysInMonth | .now | .iso | .daysBeforeNow
  | .hoursBeforeNow => Dates.apply settings.now function values
  | .toArray => .ok (.array values)
  | .min => function.extreme .lt values
  | .max => function.extreme .gt values
  | .round =>
    match values with
    | [value] => roundTo settings value 0
    | [value, places] => do roundTo settings value (← digits places)
    | _ => .error (.internal "round() takes one or two arguments")
  | _ =>
    match values with
    | [value] => function.applyOne settings value
    | _ => .error (.internal (function.name ++ "() takes one argument"))

end RuleScript.Builtin
