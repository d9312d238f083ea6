import RuleScript.Run.Comparison

/-!
Laws of the order of values, of equality inside arrays, and of the comparison operators. The order
can be read from either side, values of all kinds included, so equality is symmetric; it is also
reflexive, at any depth of arrays. The comparison operators are said by four equations, one for each
way that arrays can stand on the two sides. A comparison with something that is no array is then one
with some leaf of the other side (`Operator.compares_iff_leaf`), and all laws of the operators come
down to those of the orders they accept.
-/
namespace RuleScript

/-- Decimals are ordered as the fractions they stand for, which are brought to a common
denominator to compare them. -/
instance Decimal.transCmp_compare : Std.TransCmp Decimal.compare where
  eq_swap := Std.OrientedOrd.eq_swap
  isLE_trans {a b c} first second := by
    unfold Decimal.compare at *
    rw [Int.isLE_compare] at *
    have denominator (d : Decimal) : (0 : Int) < tenPow d.scale := by exact_mod_cast tenPow_pos _
    apply Int.le_of_mul_le_mul_right _ (denominator b)
    calc a.signed * tenPow c.scale * tenPow b.scale
        = a.signed * tenPow b.scale * tenPow c.scale := Int.mul_right_comm ..
      _ ≤ b.signed * tenPow a.scale * tenPow c.scale :=
        Int.mul_le_mul_of_nonneg_right first (Int.le_of_lt (denominator c))
      _ = b.signed * tenPow c.scale * tenPow a.scale := Int.mul_right_comm ..
      _ ≤ c.signed * tenPow b.scale * tenPow a.scale :=
        Int.mul_le_mul_of_nonneg_right second (Int.le_of_lt (denominator a))
      _ = c.signed * tenPow a.scale * tenPow b.scale := Int.mul_right_comm ..

namespace Value

/-- To show something of all values it is enough to show it of those that are no arrays, and of an
array when it holds of all its items. -/
@[elab_as_elim]
theorem nested_induction {motive : Value → Prop}
    (scalar : ∀ value, value.isArray = false → motive value)
    (array : ∀ items, (∀ item ∈ items, motive item) → motive (.array items)) (value : Value) :
    motive value := by
  refine @Value.rec motive (fun items => ∀ item ∈ items, motive item)
    (scalar _ rfl) (fun _ => scalar _ rfl) (fun _ => scalar _ rfl) (fun _ => scalar _ rfl)
    array (fun _ nowhere => ?_) (fun head tail ofHead ofTail item among => ?_) value
  · cases nowhere
  · rcases List.mem_cons.1 among with rfl | behind
    · exact ofHead
    · exact ofTail item behind

/-- The first value is no array, and it stands in the second one at some depth; a value that is no
array is its own only leaf. -/
inductive IsLeafOf (leaf : Value) : Value → Prop
  | self : leaf.isArray = false → IsLeafOf leaf leaf
  | inside {item : Value} {items : List Value} :
    item ∈ items → IsLeafOf leaf item → IsLeafOf leaf (.array items)

theorem IsLeafOf.isArray {leaf value : Value} (stands : leaf.IsLeafOf value) :
    leaf.isArray = false := by
  induction stands with
  | self scalar => exact scalar
  | inside _ _ ih => exact ih

theorem isLeafOf_scalar {leaf value : Value} (scalar : value.isArray = false) :
    leaf.IsLeafOf value ↔ leaf = value := by
  constructor
  · intro stands
    cases stands with
    | self => rfl
    | inside => cases scalar
  · rintro rfl
    exact .self scalar

theorem isLeafOf_array {leaf : Value} {items : List Value} :
    leaf.IsLeafOf (.array items) ↔ ∃ item ∈ items, leaf.IsLeafOf item := by
  constructor
  · intro stands
    cases stands with
    | self scalar => cases scalar
    | inside among stands => exact ⟨_, among, stands⟩
  · rintro ⟨item, among, stands⟩
    exact .inside among stands

theorem compareBool_swap (a b : Bool) : compareBool b a = (compareBool a b).swap :=
  Std.OrientedOrd.eq_swap

/-- Read from the other side, the order is turned round. -/
theorem order?_swap (a b : Value) : b.order? a = (a.order? b).map Ordering.swap := by
  cases a with
  | null => cases b <;> rfl
  | number n =>
    cases b with
    | number m => exact congrArg some Std.OrientedCmp.eq_swap
    | text s => simp [order?]
    | _ => rfl
  | text s =>
    cases b with
    | text t => exact congrArg some Std.OrientedOrd.eq_swap
    | number n => rfl
    | boolean b =>
      simp only [order?]
      cases spelledBool? s <;> simp
    | _ => rfl
  | boolean a =>
    cases b with
    | boolean b => exact congrArg some (compareBool_swap a b)
    | text s =>
      simp only [order?]
      cases spelledBool? s <;> rfl
    | _ => rfl
  | array items => cases b <;> rfl

theorem order?_self {value : Value} (scalar : value.isArray = false) :
    value.order? value = some .eq := by
  cases value with
  | null => rfl
  | number n => exact congrArg some Std.ReflCmp.compare_self
  | text s => exact congrArg some Std.ReflOrd.compare_self
  | boolean b => cases b <;> rfl
  | array items => cases scalar

theorem equals_scalars {a b : Value} (left : a.isArray = false) (right : b.isArray = false) :
    a.equals b = (a.order? b == some .eq) := by
  cases a with
  | array => cases left
  | _ =>
    cases b with
    | array => cases right
    | _ => rfl

theorem equalItems_self {items : List Value} (ofItems : ∀ item ∈ items, item.equals item = true) :
    equalItems items items = true := by
  induction items with
  | nil => rfl
  | cons item rest ih =>
    simp only [equalItems, ofItems item List.mem_cons_self, Bool.true_and]
    exact ih fun other among => ofItems other (List.mem_cons_of_mem _ among)

theorem equals_self (value : Value) : value.equals value = true := by
  induction value using nested_induction with
  | scalar value scalar => rw [equals_scalars scalar scalar, order?_self scalar]; rfl
  | array items ofItems => exact equalItems_self ofItems

theorem equalItems_comm {a : List Value}
    (ofItems : ∀ item ∈ a, ∀ other, item.equals other = other.equals item) (b : List Value) :
    equalItems a b = equalItems b a := by
  induction a generalizing b with
  | nil => cases b <;> rfl
  | cons first rest ih =>
    cases b with
    | nil => rfl
    | cons second others =>
      simp only [equalItems, ofItems first List.mem_cons_self second]
      rw [ih fun item among => ofItems item (List.mem_cons_of_mem _ among)]

theorem equals_comm (a b : Value) : a.equals b = b.equals a := by
  induction a using nested_induction generalizing b with
  | scalar a left =>
    cases right : b.isArray with
    | false =>
      rw [equals_scalars left right, equals_scalars right left, order?_swap a b]
      rcases a.order? b with _ | _ | _ | _ <;> rfl
    | true =>
      cases b with
      | array items =>
        cases a with
        | array => cases left
        | _ => rfl
      | _ => cases right
  | array items ofItems =>
    cases b with
    | array others => exact equalItems_comm ofItems others
    | _ => rfl

end Value

namespace Operator

/-- The operator that says the same with the sides exchanged. -/
def flipped : Operator → Operator
  | .less => .greater
  | .greater => .less
  | .lessEqual => .greaterEqual
  | .greaterEqual => .lessEqual
  | op => op

theorem flipped_flipped (op : Operator) : op.flipped.flipped = op := by
  cases op <;> rfl

theorem accepts_flipped (op : Operator) (order : Ordering) :
    op.flipped.accepts order.swap = op.accepts order := by
  cases op <;> cases order <;> rfl

theorem comparesScalars_flipped (op : Operator) (left right : Value) :
    op.flipped.comparesScalars right left = op.comparesScalars left right := by
  unfold comparesScalars
  rw [Value.order?_swap left right]
  cases left.order? right with
  | none => cases op <;> rfl
  | some order => exact op.accepts_flipped order

theorem compares_scalars (op : Operator) {left right : Value} (first : left.isArray = false)
    (second : right.isArray = false) : op.compares left right = op.comparesScalars left right := by
  cases left with
  | array => cases first
  | _ =>
    cases right with
    | array => cases second
    | _ => rfl

theorem compares_arrays (op : Operator) (a b : List Value) :
    op.compares (.array a) (.array b) = op.comparesArrays (.array a) (.array b) := rfl

theorem someCompares_eq_any (op : Operator) (items : List Value) (right : Value) :
    op.someCompares items right = items.any (op.compares · right) := by
  induction items with
  | nil => rfl
  | cons item rest ih => rw [someCompares, ih, List.any_cons]

/-- An array on the left stands for each of its items. -/
theorem compares_array_left (op : Operator) (items : List Value) {right : Value}
    (scalar : right.isArray = false) :
    op.compares (.array items) right = items.any (op.compares · right) := by
  rw [← someCompares_eq_any, compares, scalar]
  rfl

theorem comparesWith_eq_compares (op : Operator) {left : Value} (scalar : left.isArray = false)
    (right : Value) : op.comparesWith left right = op.compares left right := by
  cases left with
  | array => cases scalar
  | _ => rfl

theorem comparesWithSome_eq_any (op : Operator) (left : Value) (items : List Value) :
    op.comparesWithSome left items = items.any (op.comparesWith left ·) := by
  induction items with
  | nil => rfl
  | cons item rest ih => rw [comparesWithSome, ih, List.any_cons]

/-- An array on the right stands for each of its items. -/
theorem compares_array_right (op : Operator) {left : Value} (scalar : left.isArray = false)
    (items : List Value) :
    op.compares left (.array items) = items.any (op.compares left ·) := by
  rw [← op.comparesWith_eq_compares scalar, comparesWith, comparesWithSome_eq_any]
  simp only [op.comparesWith_eq_compares scalar]

/-- A comparison of any value with something that is no array holds when it holds for a leaf. -/
theorem compares_iff_leaf (op : Operator) (left : Value) {right : Value}
    (scalar : right.isArray = false) :
    op.compares left right = true ↔
      ∃ leaf, leaf.IsLeafOf left ∧ op.compares leaf right = true := by
  induction left using Value.nested_induction with
  | scalar left first => simp [Value.isLeafOf_scalar first]
  | array items ofItems =>
    rw [compares_array_left op items scalar, List.any_eq_true]
    constructor
    · rintro ⟨item, among, holds⟩
      obtain ⟨leaf, stands, holds⟩ := (ofItems item among).1 holds
      exact ⟨leaf, .inside among stands, holds⟩
    · rintro ⟨leaf, stands, holds⟩
      obtain ⟨item, among, stands⟩ := Value.isLeafOf_array.1 stands
      exact ⟨item, among, (ofItems item among).2 ⟨leaf, stands, holds⟩⟩

theorem comparesArrays_flipped (op : Operator) (a b : List Value) :
    op.flipped.comparesArrays (.array b) (.array a) = op.comparesArrays (.array a) (.array b) := by
  unfold comparesArrays
  rw [Value.equals_comm (.array b) (.array a)]
  cases op <;> rfl

/-- With something that is no array on the right, the sides can be exchanged. -/
theorem compares_flipped_scalar (op : Operator) (left : Value) {right : Value}
    (scalar : right.isArray = false) :
    op.flipped.compares right left = op.compares left right := by
  induction left using Value.nested_induction with
  | scalar left first =>
    rw [compares_scalars _ scalar first, compares_scalars _ first scalar, comparesScalars_flipped]
  | array items ofItems =>
    rw [compares_array_right _ scalar, compares_array_left _ _ scalar, Bool.eq_iff_iff,
      List.any_eq_true, List.any_eq_true]
    exact exists_congr fun item => and_congr_right fun among => by rw [ofItems item among]

/-- The sides of a comparison can be exchanged when the operator is turned round. -/
theorem compares_flipped (op : Operator) (left right : Value) :
    op.flipped.compares right left = op.compares left right := by
  cases second : right.isArray with
  | false => exact op.compares_flipped_scalar left second
  | true =>
    cases first : left.isArray with
    | false =>
      have turned := op.flipped.compares_flipped_scalar right first
      rwa [flipped_flipped, eq_comm] at turned
    | true =>
      cases left with
      | array a =>
        cases right with
        | array b => rw [compares_arrays, compares_arrays, comparesArrays_flipped]
        | _ => cases second
      | _ => cases first

/-- The second operator accepts an order strictly, and the first one also accepts equality. -/
inductive Weakens : Operator → Operator → Prop
  | less : Weakens .lessEqual .less
  | greater : Weakens .greaterEqual .greater

theorem Weakens.flipped {weak strict : Operator} (weakens : Weakens weak strict) :
    Weakens weak.flipped strict.flipped := by
  cases weakens with
  | less => exact .greater
  | greater => exact .less

theorem Weakens.comparesScalars {weak strict : Operator} (weakens : Weakens weak strict)
    (left right : Value) :
    weak.comparesScalars left right =
      (strict.comparesScalars left right || equal.comparesScalars left right) := by
  unfold Operator.comparesScalars
  rcases left.order? right with _ | _ | _ | _ <;> cases weakens <;> rfl

theorem Weakens.compares_scalar {weak strict : Operator} (weakens : Weakens weak strict)
    (left : Value) {right : Value} (scalar : right.isArray = false) :
    weak.compares left right = (strict.compares left right || equal.compares left right) := by
  rw [Bool.eq_iff_iff, Bool.or_eq_true, compares_iff_leaf _ left scalar,
    compares_iff_leaf _ left scalar, compares_iff_leaf _ left scalar, ← exists_or]
  refine exists_congr fun leaf => ?_
  rw [← and_or_left]
  refine and_congr_right fun stands => ?_
  rw [compares_scalars _ stands.isArray scalar, compares_scalars _ stands.isArray scalar,
    compares_scalars _ stands.isArray scalar, weakens.comparesScalars, Bool.or_eq_true]

/-- Where not both sides are arrays, the weak operator is the strict one or equality. -/
theorem Weakens.compares {weak strict : Operator} (weakens : Weakens weak strict)
    {left right : Value} (mixed : (left.isArray && right.isArray) = false) :
    weak.compares left right = (strict.compares left right || equal.compares left right) := by
  rcases Bool.and_eq_false_iff.1 mixed with first | second
  · have turned := weakens.flipped.compares_scalar right first
    rw [compares_flipped, compares_flipped] at turned
    rw [turned]
    exact congrArg _ (equal.compares_flipped left right)
  · exact weakens.compares_scalar left second

/-- Values that are no arrays are equal or unequal, and not both. -/
theorem compares_notEqual {left right : Value} (first : left.isArray = false)
    (second : right.isArray = false) :
    notEqual.compares left right = !equal.compares left right := by
  rw [compares_scalars _ first second, compares_scalars _ first second]
  unfold comparesScalars
  rcases left.order? right with _ | _ | _ | _ <;> rfl

/-- The comparison operators obey their laws on all values. The sides can be exchanged when the
operator is turned round. An array on one side only stands for its leaves at any depth: one that
satisfies the comparison is enough. Unless both sides are arrays, the weak orders are the strict
ones or equality; without arrays, being unequal is not being equal. Equality inside arrays is
reflexive and symmetric. -/
theorem comparisons_lawful (op : Operator) (left right : Value) :
    op.compares left right = op.flipped.compares right left ∧
    (left.isArray = true → right.isArray = false →
      (op.compares left right = true ↔
        ∃ leaf, leaf.IsLeafOf left ∧ op.compares leaf right = true)) ∧
    (left.isArray = false → right.isArray = true →
      (op.compares left right = true ↔
        ∃ leaf, leaf.IsLeafOf right ∧ op.compares left leaf = true)) ∧
    ((left.isArray && right.isArray) = false →
      lessEqual.compares left right = (less.compares left right || equal.compares left right) ∧
      greaterEqual.compares left right =
        (greater.compares left right || equal.compares left right)) ∧
    (left.isArray = false → right.isArray = false →
      notEqual.compares left right = !equal.compares left right) ∧
    left.equals left = true ∧ left.equals right = right.equals left := by
  refine ⟨(op.compares_flipped left right).symm, fun _ scalar => op.compares_iff_leaf left scalar,
    fun scalar _ => ?_, fun mixed => ⟨Weakens.less.compares mixed, Weakens.greater.compares mixed⟩,
    compares_notEqual, left.equals_self, left.equals_comm right⟩
  rw [← op.compares_flipped, compares_iff_leaf _ right scalar]
  simp only [compares_flipped]

/-- A number deep in an array beats a text that spells a smaller one, seen from either side; the
text alone equals a number. -/
theorem comparisons_lawful_nested :
    let nested : Value := .array [.null, .array [.text "a", .ofInt 10]]
    let nine : Value := .text "9"
    (nested.isArray = true ∧ nine.isArray = false ∧ greater.compares nested nine = true) ∧
      (∃ leaf, leaf.IsLeafOf nested ∧ greater.compares leaf nine = true) ∧
      (∃ leaf, leaf.IsLeafOf nested ∧ less.compares nine leaf = true) ∧
      lessEqual.compares nine nested = (less.compares nine nested || equal.compares nine nested) ∧
      notEqual.compares nine (.ofInt 9) = !equal.compares nine (.ofInt 9) := by
  intro nested nine
  have greaterHolds : greater.compares nested nine = true := by decide +kernel
  have lessHolds : less.compares nine nested = true := by decide +kernel
  obtain ⟨-, leftLeaf, -⟩ := comparisons_lawful greater nested nine
  obtain ⟨-, -, rightLeaf, weak, -⟩ := comparisons_lawful less nine nested
  obtain ⟨-, -, -, -, unequal, -⟩ := comparisons_lawful equal nine (.ofInt 9)
  exact ⟨⟨rfl, rfl, greaterHolds⟩, (leftLeaf rfl rfl).1 greaterHolds,
    (rightLeaf rfl rfl).1 lessHolds, (weak rfl).1, unequal rfl rfl⟩

end Operator
end RuleScript
