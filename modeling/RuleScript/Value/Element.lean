import RuleScript.Value

/-!
Elements of arrays. Reading never fails: what is not there is null. Writing turns anything into an
array that is long enough.
-/
namespace RuleScript.Value

/-- The element at an index, null where there is none. -/
def element (v : Value) (index : Nat) : Value :=
  match v with
  | .array items => (items[index]?).getD .null
  | _ => .null

/-- The items that a value has as an array: null has none, and a value that is no array is the only
item. -/
def items : Value → List Value
  | .array items => items
  | .null => []
  | scalar => [scalar]

/-- Items with the one at an index replaced; nulls fill the gap up to an index past the end. -/
def putItem (items : List Value) (index : Nat) (value : Value) : List Value :=
  (items ++ List.replicate (index + 1 - items.length) Value.null).set index value

/-- The value as an array with one element replaced. -/
def withElement (v : Value) (index : Nat) (value : Value) : Value :=
  .array (putItem v.items index value)

end RuleScript.Value
