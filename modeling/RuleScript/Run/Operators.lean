import RuleScript.Run.Comparison
import RuleScript.Run.Error

/-!
Operators on values. Addition and subtraction build arrays; with null the other operators give
null; products, quotients and powers are rounded as the settings say.
-/
namespace RuleScript.Operator

/-- Operands of kinds that an operator does not take. -/
def mismatch (op : Operator) (left right : Value) : EvalError :=
  .typeError ("cannot apply '" ++ op.spelling ++ "' to " ++ left.kindName ++ " and " ++
    right.kindName)

/-- A result that must fit in a number. -/
def fitting (op : Operator) : Option Decimal → Except EvalError Decimal
  | some n => .ok n
  | none => .error (.overflow op.spelling)

/-- The texts of two values, one after the other. -/
def joined (settings : Settings) (left right : Value) : Value :=
  .text (left.render settings ++ right.render settings)

def sum (settings : Settings) (left right : Value) : Except EvalError Value :=
  match left, right with
  | .array items, .array more => .ok (.array (items ++ more))
  | .array items, scalar => .ok (.array (items ++ [scalar]))
  | scalar, .array items => .ok (.array (scalar :: items))
  | .null, _ => .ok .null
  | _, .null => .ok .null
  | .boolean _, _ => .error (mismatch .add left right)
  | _, .boolean _ => .error (mismatch .add left right)
  | .number a, .number b => (fitting .add (a.add? b)).map .number
  | .text s, .number n =>
    match Decimal.numeral? s with
    | some spelled => (fitting .add (spelled.add? n)).map .number
    | none => .ok (joined settings left right)
  | .number n, .text s =>
    match Decimal.numeral? s with
    | some spelled => (fitting .add (spelled.add? n)).map .number
    | none => .ok (joined settings left right)
  | .text _, .text _ => .ok (joined settings left right)

/-- The items without the first that equals a value. -/
def removeFirst (value : Value) : List Value → List Value
  | [] => []
  | item :: rest => if item.equals value then rest else item :: removeFirst value rest

/-- The items without one equal item for each value, in turn. -/
def removeEach (items removed : List Value) : List Value :=
  removed.foldl (fun remaining value => removeFirst value remaining) items

/-- The number an operand stands for. -/
def numericOperand (op : Operator) (value : Value) : Except EvalError Decimal :=
  match value.number? with
  | some n => .ok n
  | none =>
    .error (.typeError ("'" ++ op.spelling ++ "' needs numeric operands, '" ++ value.display ++
      "' is not a number"))

def difference (left right : Value) : Except EvalError Value :=
  match left, right with
  | .array items, .array removed => .ok (.array (removeEach items removed))
  | .array items, scalar => .ok (.array (removeFirst scalar items))
  | _, .array _ => .error (mismatch .subtract left right)
  | .null, _ => .ok .null
  | _, .null => .ok .null
  | .boolean _, _ => .error (mismatch .subtract left right)
  | _, .boolean _ => .error (mismatch .subtract left right)
  | _, _ => do
    let a ← numericOperand .subtract left
    let b ← numericOperand .subtract right
    (fitting .subtract (a.sub? b)).map .number

/-- A power by doubles; without a finite result it is null. -/
def doublePower (settings : Settings) (base exponent : Decimal) : Value :=
  match Decimal.ofDouble? (base.toDouble.pow exponent.toDouble) with
  | some n => .number (settings.round n)
  | none => .null

/-- A power with a whole exponent. A negative one divides by the power, so the base cannot be
zero. -/
def wholePower (base : Decimal) (exponent : Int) : Except EvalError Decimal :=
  if 0 ≤ exponent then fitting .power (base.pow? exponent.toNat)
  else if base.isZero then .error .divisionByZero
  else if fitsNegated exponent then
    fitting .power ((base.pow? exponent.natAbs).bind (Decimal.one.div? ·))
  else .error (.overflow Operator.power.spelling)
where
  /-- The exponent is also a 64-bit number with the other sign. -/
  fitsNegated (n : Int) : Bool := n != -0x8000000000000000

/-- A power. Whole exponents of 64 bits are computed on decimals, all others on doubles. -/
def raise (settings : Settings) (base exponent : Decimal) : Except EvalError Value :=
  if exponent.isWhole then
    match exponent.toInt64? with
    | some n => (wholePower base n).map fun power => .number (settings.round power)
    | none => .ok (doublePower settings base exponent)
  else .ok (doublePower settings base exponent)

/-- Product, quotient and power of two numbers. -/
def scaled (op : Operator) (settings : Settings) (a b : Decimal) : Except EvalError Value :=
  match op with
  | .multiply => (fitting op (a.mul? b)).map fun n => .number (settings.round n)
  | .divide =>
    if b.isZero then .error .divisionByZero
    else (fitting op (a.div? b)).map fun n => .number (settings.round n)
  | _ => raise settings a b

/-- Product, quotient and power of two values. -/
def arithmetic (op : Operator) (settings : Settings) (left right : Value) :
    Except EvalError Value :=
  match left, right with
  | .array _, _ => .error (op.mismatch left right)
  | _, .array _ => .error (op.mismatch left right)
  | .null, _ => .ok .null
  | _, .null => .ok .null
  | .boolean _, _ => .error (op.mismatch left right)
  | _, .boolean _ => .error (op.mismatch left right)
  | _, _ => do
    let a ← numericOperand op left
    let b ← numericOperand op right
    op.scaled settings a b

/-- The 64-bit number an operand of `&` or `|` stands for. -/
def bitOperand? : Value → Option Int
  | .boolean b => some b.toNat
  | .number n => (Value.number n).int64?
  | .text s => (Value.text s).int64?
  | _ => none

/-- Conjunction or disjunction of the bits of two 64-bit numbers. -/
def combineBits (op : Operator) (a b : Int) : Int :=
  match op with
  | .bitAnd => (Int64.ofInt a &&& Int64.ofInt b).toInt
  | _ => (Int64.ofInt a ||| Int64.ofInt b).toInt

def bitwise (op : Operator) (left right : Value) : Except EvalError Value :=
  if left.isNull || right.isNull then .ok .null
  else
    match bitOperand? left, bitOperand? right with
    | some a, some b => .ok (.ofInt (op.combineBits a b))
    | _, _ => .error (op.mismatch left right)

/-- Applies an operator to both operands. The logical operators, which may skip the second operand,
are not applied this way. -/
def apply (op : Operator) (settings : Settings) (left right : Value) : Except EvalError Value :=
  match op with
  | .add => sum settings left right
  | .subtract => difference left right
  | .multiply | .divide | .power => op.arithmetic settings left right
  | .bitAnd | .bitOr => op.bitwise left right
  | .equal | .notEqual | .less | .greater | .lessEqual | .greaterEqual =>
    .ok (.boolean (op.compares left right))
  | .and | .or =>
    .error (.internal ("'" ++ op.spelling ++ "' reached strict operator evaluation"))

/-- The result that the first operand of a logical operator settles alone. -/
def decided? (op : Operator) (first : Value) : Option Value :=
  match op with
  | .and => if first.isTrue then none else some (.boolean false)
  | .or => if first.isTrue then some (.boolean true) else none
  | _ => none

/-- The result once the second operand is there too. -/
def combine (op : Operator) (settings : Settings) (first second : Value) :
    Except EvalError Value :=
  match op with
  | .and | .or => .ok (.boolean second.isTrue)
  | _ => op.apply settings first second

end RuleScript.Operator
