import RuleScript.Script.Tree

/-!
The order of values, equality inside arrays, and the comparison operators. An array compared with
something that is no array stands for each of its elements: one that satisfies the comparison is
enough.
-/
namespace RuleScript

namespace Value

/-- The truth value that a text spells in any mix of cases, blanks around it aside. -/
def spelledBool? (s : String) : Option Bool :=
  let word := (Text.trimChars s.toList).map Char.toLower
  if word == "true".toList then some true
  else if word == "false".toList then some false
  else none

/-- The order of a text and a number: by number when the text spells one, else by text. -/
def compareTextNumber (s : String) (n : Decimal) : Ordering :=
  match Decimal.numeral? s with
  | some spelled => spelled.compare n
  | none => Ord.compare s n.toText

/-- False comes before true. -/
def compareBool (a b : Bool) : Ordering :=
  Ord.compare a.toNat b.toNat

/-- The order of two values, where their kinds have one. Arrays have none. -/
def order? : Value → Value → Option Ordering
  | .null, .null => some .eq
  | .number a, .number b => some (a.compare b)
  | .text a, .text b => some (Ord.compare a b)
  | .boolean a, .boolean b => some (compareBool a b)
  | .text s, .number n => some (compareTextNumber s n)
  | .number n, .text s => some (compareTextNumber s n).swap
  | .boolean b, .text s => (spelledBool? s).map (compareBool b)
  | .text s, .boolean b => (spelledBool? s).map fun spelled => (compareBool b spelled).swap
  | _, _ => none

mutual

/-- Equality of elements: arrays element by element, other values by their order. -/
def equals : Value → Value → Bool
  | .array a, .array b => equalItems a b
  | .array _, _ => false
  | _, .array _ => false
  | a, b => a.order? b == some .eq

/-- Arrays of one length whose elements are equal in turn. -/
def equalItems : List Value → List Value → Bool
  | [], [] => true
  | a :: as, b :: bs => a.equals b && equalItems as bs
  | _, _ => false

end

end Value

namespace Operator

/-- An order satisfies a comparison operator. -/
def accepts (op : Operator) (order : Ordering) : Bool :=
  match op with
  | .equal => order == .eq
  | .notEqual => order != .eq
  | .less => order == .lt
  | .greater => order == .gt
  | .lessEqual => order != .gt
  | .greaterEqual => order != .lt
  | _ => false

/-- A comparison of two values that are no arrays. Values without an order are only unequal. -/
def comparesScalars (op : Operator) (left right : Value) : Bool :=
  match left.order? right with
  | some order => op.accepts order
  | none => op == .notEqual

/-- A comparison of two arrays, which are only ever equal or unequal. -/
def comparesArrays (op : Operator) (left right : Value) : Bool :=
  match op with
  | .equal => left.equals right
  | .notEqual => !left.equals right
  | _ => false

mutual

/-- A comparison of something that is no array with a value. -/
def comparesWith (op : Operator) (left : Value) : Value → Bool
  | .array items => comparesWithSome op left items
  | .null => op.comparesScalars left .null
  | .number n => op.comparesScalars left (.number n)
  | .text s => op.comparesScalars left (.text s)
  | .boolean b => op.comparesScalars left (.boolean b)

def comparesWithSome (op : Operator) (left : Value) : List Value → Bool
  | [] => false
  | item :: rest => comparesWith op left item || comparesWithSome op left rest

end

mutual

/-- A comparison of any two values. -/
def compares (op : Operator) (left right : Value) : Bool :=
  match left with
  | .array items =>
    if right.isArray then op.comparesArrays (.array items) right else someCompares op items right
  | scalar => comparesWith op scalar right

def someCompares (op : Operator) (items : List Value) (right : Value) : Bool :=
  match items with
  | [] => false
  | item :: rest => compares op item right || someCompares op rest right

end

end Operator
end RuleScript
