import Mathlib.Data.List.FinRange
import Mathlib.Data.List.Induction
import RuleScript.Proofs.Value.Order
import RuleScript.Run.Operators

/-!
What subtraction takes out of an array. Equality of items is not transitive: the texts `1` and `1.0`
both equal the number one and do not equal each other, so what is left cannot be found by counting.
Which item is taken by which value is told by positions (`Taking`): each value in turn takes the
first item that equals it and is still there. One more value makes one more step of such a taking
(`Taking.exists_step`), so subtraction follows one from start to end.
-/
namespace RuleScript

namespace Operator

theorem removeFirst_eq_eraseP (value : Value) (items : List Value) :
    removeFirst value items = items.eraseP (·.equals value) := by
  induction items with
  | nil => rfl
  | cons item rest ih => rw [removeFirst, List.eraseP_cons, ih, Bool.cond_eq_ite]

/-- Either nothing equals the value and nothing is removed, or the first item that does is. -/
theorem removeFirst_cases (value : Value) (items : List Value) :
    ((∀ item ∈ items, item.equals value = false) ∧ removeFirst value items = items) ∨
      ∃ before item after, items = before ++ item :: after ∧ item.equals value = true ∧
        (∀ other ∈ before, other.equals value = false) ∧
        removeFirst value items = before ++ after := by
  rw [removeFirst_eq_eraseP]
  by_cases found : ∃ item ∈ items, item.equals value = true
  · obtain ⟨item, among, equal⟩ := found
    obtain ⟨first, before, after, others, equal, split, erased⟩ :=
      List.exists_of_eraseP (p := (·.equals value)) among equal
    exact .inr ⟨before, first, after, split, equal,
      fun other inFront => Bool.eq_false_iff.2 (others other inFront), erased⟩
  · have none : ∀ item ∈ items, ¬item.equals value = true :=
      fun item among equal => found ⟨item, among, equal⟩
    exact .inl ⟨fun item among => Bool.eq_false_iff.2 (none item among),
      List.eraseP_of_forall_not none⟩

theorem removeEach_concat (items values : List Value) (value : Value) :
    removeEach items (values ++ [value]) = removeFirst value (removeEach items values) := by
  simp [removeEach]

/-- Every item in front takes itself away again. -/
theorem removeEach_append_self (items more : List Value) :
    removeEach (items ++ more) items = more := by
  induction items with
  | nil => rfl
  | cons item rest ih =>
    have first : removeFirst item (item :: rest ++ more) = rest ++ more := by
      rw [List.cons_append, removeFirst, if_pos item.equals_self]
    rw [removeEach, List.foldl_cons, first]
    exact ih

end Operator

/-- Which items are taken away by which values, told by their positions: each value in turn takes
the first item that equals it and is still there. -/
structure Taking (items values : List Value) where
  /-- The position of the value that takes the item at a position, where there is one. -/
  taker : Fin items.length → Option Nat
  equal : ∀ {i k}, taker i = some k →
    ∃ value, values[k]? = some value ∧ (items.get i).equals value = true
  once : ∀ {i j k}, taker i = some k → taker j = some k → i = j
  first : ∀ {i k value}, values[k]? = some value → (items.get i).equals value = true →
    (∃ j ≤ i, taker j = some k) ∨ ∃ l < k, taker i = some l

namespace Taking

variable {items values : List Value}

/-- The positions of the items that are left, in order. -/
def free (taking : Taking items values) : List (Fin items.length) :=
  (List.finRange items.length).filter fun i => (taking.taker i).isNone

/-- The items that are left. -/
def rest (taking : Taking items values) : List Value :=
  taking.free.map items.get

theorem mem_free {taking : Taking items values} {i : Fin items.length} :
    i ∈ taking.free ↔ taking.taker i = none := by
  simp [free]

theorem free_ordered (taking : Taking items values) : taking.free.Pairwise (· < ·) :=
  (List.pairwise_lt_finRange _).sublist List.filter_sublist

theorem taker_lt {taking : Taking items values} {i : Fin items.length} {k : Nat}
    (taken : taking.taker i = some k) : k < values.length := by
  obtain ⟨value, there, -⟩ := taking.equal taken
  exact (List.getElem?_eq_some_iff.1 there).1

theorem rest_sublist (taking : Taking items values) : taking.rest.Sublist items := by
  have sublist : taking.rest.Sublist ((List.finRange items.length).map items.get) :=
    List.filter_sublist.map _
  rwa [List.map_get_finRange] at sublist

/-- A value that takes nothing equals none of the items that are left. -/
theorem unequal_of_idle {taking : Taking items values} {k : Nat} {value : Value}
    (there : values[k]? = some value) (idle : ∀ i, taking.taker i ≠ some k) :
    ∀ item ∈ taking.rest, item.equals value = false := by
  intro item left
  obtain ⟨i, free, rfl⟩ := List.mem_map.1 left
  refine Bool.eq_false_iff.2 fun equal => ?_
  rcases taking.first there equal with ⟨j, -, taken⟩ | ⟨l, -, taken⟩
  · exact idle j taken
  · rw [mem_free.1 free] at taken
    cases taken

/-- Without values nothing is taken. -/
def start (items : List Value) : Taking items [] where
  taker _ := none
  equal taken := by cases taken
  once taken := by cases taken
  first there := by cases there

theorem rest_start (items : List Value) : (start items).rest = items := by
  simp [rest, free, start]

theorem concat_cases {value other : Value} {k : Nat}
    (there : (values ++ [value])[k]? = some other) :
    values[k]? = some other ∨ k = values.length ∧ other = value := by
  obtain ⟨inside, found⟩ := List.getElem?_eq_some_iff.1 there
  rw [List.length_append, List.length_singleton] at inside
  rcases Nat.lt_succ_iff_lt_or_eq.1 inside with before | rfl
  · rw [List.getElem?_append_left before] at there
    exact .inl there
  · rw [List.getElem?_concat_length] at there
    exact .inr ⟨rfl, (Option.some.inj there).symm⟩

theorem equal_concat (taking : Taking items values) (value : Value) {i : Fin items.length}
    {k : Nat} (taken : taking.taker i = some k) :
    ∃ other, (values ++ [value])[k]? = some other ∧ (items.get i).equals other = true := by
  obtain ⟨other, there, equal⟩ := taking.equal taken
  exact ⟨other, (List.getElem?_append_left (taker_lt taken)).trans there, equal⟩

/-- A further value takes nothing when it equals none of the items that are left. -/
def idle (taking : Taking items values) (value : Value)
    (unequal : ∀ i ∈ taking.free, ¬(items.get i).equals value = true) :
    Taking items (values ++ [value]) where
  taker := taking.taker
  equal := taking.equal_concat value
  once := taking.once
  first {i k other} there equal := by
    rcases concat_cases there with earlier | ⟨rfl, rfl⟩
    · exact taking.first earlier equal
    · cases taken : taking.taker i with
      | none => exact absurd equal (unequal i (mem_free.2 taken))
      | some l => exact .inr ⟨l, taker_lt taken, rfl⟩

/-- A further value takes the first item that equals it among those that are left. -/
def take (taking : Taking items values) (value : Value) (i₀ : Fin items.length)
    (left : taking.taker i₀ = none) (equal₀ : (items.get i₀).equals value = true)
    (earliest : ∀ i ∈ taking.free, (items.get i).equals value = true → i₀ ≤ i) :
    Taking items (values ++ [value]) where
  taker i := if i = i₀ then some values.length else taking.taker i
  equal {i k} taken := by
    split at taken
    · next same =>
      cases taken
      exact ⟨value, List.getElem?_concat_length, same ▸ equal₀⟩
    · exact taking.equal_concat value taken
  once {i j k} taken taken' := by
    split at taken <;> split at taken'
    · next same same' => rw [same, same']
    · cases taken
      exact absurd (taker_lt taken') (Nat.lt_irrefl _)
    · cases taken'
      exact absurd (taker_lt taken) (Nat.lt_irrefl _)
    · exact taking.once taken taken'
  first {i k other} there equal := by
    -- What was taken before is not the position taken now, so its taker stays.
    have others {j : Fin items.length} {l : Nat} (taken : taking.taker j = some l) :
        (if j = i₀ then some values.length else taking.taker j) = some l := by
      rw [if_neg, taken]
      rintro rfl
      rw [left] at taken
      cases taken
    rcases concat_cases there with earlier | ⟨rfl, rfl⟩
    · rcases taking.first earlier equal with ⟨j, before, taken⟩ | ⟨l, before, taken⟩
      · exact .inl ⟨j, before, others taken⟩
      · exact .inr ⟨l, before, others taken⟩
    · cases taken : taking.taker i with
      | none => exact .inl ⟨i₀, earliest i (mem_free.2 taken) equal, if_pos rfl⟩
      | some l => exact .inr ⟨l, taker_lt taken, by simpa only [taken] using others taken⟩

theorem free_take {taking : Taking items values} {value : Value} {i₀ : Fin items.length}
    (left : taking.taker i₀ = none) (equal₀ : (items.get i₀).equals value = true)
    (earliest : ∀ i ∈ taking.free, (items.get i).equals value = true → i₀ ≤ i) :
    (taking.take value i₀ left equal₀ earliest).free = taking.free.filter fun i => i ≠ i₀ := by
  rw [free, free, List.filter_filter]
  refine List.filter_congr fun i _ => ?_
  by_cases same : i = i₀ <;> simp [take, same]

/-- One more value makes one more step: it removes the first item that equals it from those that are
left, or none. -/
theorem exists_step (taking : Taking items values) (value : Value) :
    ∃ next : Taking items (values ++ [value]),
      next.rest = Operator.removeFirst value taking.rest := by
  have moved : Operator.removeFirst value taking.rest =
      (taking.free.eraseP fun i => (items.get i).equals value).map items.get := by
    rw [Operator.removeFirst_eq_eraseP, rest, List.eraseP_map]
    rfl
  by_cases found : ∃ i ∈ taking.free, (items.get i).equals value = true
  · obtain ⟨i, among, equal⟩ := found
    obtain ⟨i₀, before, after, others, equal₀, split, erased⟩ :=
      List.exists_of_eraseP (p := fun i => (items.get i).equals value) among equal
    -- The positions left are in order, so the one erased is the earliest whose item is equal.
    have ordered := taking.free_ordered
    rw [split, List.pairwise_append, List.pairwise_cons] at ordered
    obtain ⟨-, ⟨behind, -⟩, inFront⟩ := ordered
    have left : taking.taker i₀ = none := mem_free.1 (by simp [split])
    have earliest : ∀ i ∈ taking.free, (items.get i).equals value = true → i₀ ≤ i := by
      intro i free equal
      rw [split, List.mem_append, List.mem_cons] at free
      rcases free with first | rfl | last
      · exact absurd equal (others i first)
      · exact Nat.le_refl _
      · exact Nat.le_of_lt (behind i last)
    refine ⟨taking.take value i₀ left equal₀ earliest, ?_⟩
    have remaining : (taking.take value i₀ left equal₀ earliest).free = before ++ after := by
      rw [free_take, split, List.filter_append, List.filter_cons_of_neg (by simp),
        List.filter_eq_self.2 fun i first => ?_, List.filter_eq_self.2 fun i last => ?_]
      · exact decide_eq_true (Fin.ne_of_gt (behind i last))
      · exact decide_eq_true (Fin.ne_of_lt (inFront i first i₀ List.mem_cons_self))
    rw [moved, erased, rest, remaining]
  · have none : ∀ i ∈ taking.free, ¬(items.get i).equals value = true :=
      fun i among equal => found ⟨i, among, equal⟩
    refine ⟨taking.idle value none, ?_⟩
    rw [moved, List.eraseP_of_forall_not none]
    rfl

/-- Subtraction follows a taking. -/
theorem exists_removeEach (items values : List Value) :
    ∃ taking : Taking items values, Operator.removeEach items values = taking.rest := by
  -- From the end: the value that comes last finds what all the others have left.
  induction values using List.reverseRecOn with
  | nil => exact ⟨start items, (rest_start items).symm⟩
  | append_singleton values value ih =>
    obtain ⟨taking, followed⟩ := ih
    obtain ⟨next, stepped⟩ := taking.exists_step value
    exact ⟨next, by rw [Operator.removeEach_concat, followed, stepped]⟩

end Taking

namespace Operator

/-- Subtracting from an array takes items away and does nothing else. From an array, each value in
turn takes the first item that equals it and is still there: what is left keeps its order, and a
value that took nothing equals none of it. Adding an array in front and subtracting it again changes
nothing. A value that is no array takes the first item that equals it, or nothing where there is
none. -/
theorem array_subtraction_exact (settings : Settings) (items values : List Value) :
    (∃ taking : Taking items values,
      subtract.apply settings (.array items) (.array values) = .ok (.array taking.rest) ∧
      taking.rest.Sublist items ∧
      ∀ k value, values[k]? = some value → (∀ i, taking.taker i ≠ some k) →
        ∀ item ∈ taking.rest, item.equals value = false) ∧
    (do
      let sum ← add.apply settings (.array items) (.array values)
      subtract.apply settings sum (.array items)) = .ok (.array values) ∧
    subtract.apply settings (.array items) (.array items) = .ok (.array []) ∧
    ∀ scalar, scalar.isArray = false →
      ((∀ item ∈ items, item.equals scalar = false) ∧
        subtract.apply settings (.array items) scalar = .ok (.array items)) ∨
      ∃ before item after, items = before ++ item :: after ∧ item.equals scalar = true ∧
        (∀ other ∈ before, other.equals scalar = false) ∧
        subtract.apply settings (.array items) scalar = .ok (.array (before ++ after)) := by
  have arrays (a b : List Value) : subtract.apply settings (.array a) (.array b) =
      .ok (.array (removeEach a b)) := rfl
  have single (scalar : Value) (plain : scalar.isArray = false) :
      subtract.apply settings (.array items) scalar = .ok (.array (removeFirst scalar items)) := by
    cases scalar with
    | array => cases plain
    | _ => rfl
  refine ⟨?_, ?_, ?_, fun scalar plain => ?_⟩
  · obtain ⟨taking, followed⟩ := Taking.exists_removeEach items values
    exact ⟨taking, by rw [arrays, followed], taking.rest_sublist,
      fun _ _ there idle => Taking.unequal_of_idle there idle⟩
  · change subtract.apply settings (.array (items ++ values)) (.array items) = _
    rw [arrays, removeEach_append_self]
  · have whole := removeEach_append_self items []
    rw [List.append_nil] at whole
    rw [arrays, whole]
  · rw [single scalar plain]
    rcases removeFirst_cases scalar items with ⟨unequal, same⟩ | ⟨before, item, after, found⟩
    · exact .inl ⟨unequal, by rw [same]⟩
    · obtain ⟨split, equal, others, erased⟩ := found
      exact .inr ⟨before, item, after, split, equal, others, by rw [erased]⟩

/-- The number one takes the first of the items that spell it. -/
theorem array_subtraction_exact_one :
    let items : List Value := [.text "2", .text "1.0", .ofInt 1, .text "1"]
    (Value.ofInt 1).isArray = false ∧
      ∃ before item after, items = before ++ item :: after ∧ item.equals (.ofInt 1) = true ∧
        (∀ other ∈ before, other.equals (.ofInt 1) = false) ∧
        subtract.apply (.standard 0) (.array items) (.ofInt 1) =
          .ok (.array (before ++ after)) := by
  intro items
  have taken : items.any (·.equals (.ofInt 1)) = true := by decide +kernel
  obtain ⟨-, -, -, scalar⟩ := array_subtraction_exact (.standard 0) items []
  refine ⟨rfl, (scalar (.ofInt 1) rfl).resolve_left fun ⟨unequal, _⟩ => ?_⟩
  obtain ⟨item, among, equal⟩ := List.any_eq_true.1 taken
  rw [unequal item among] at equal
  cases equal

end Operator

end RuleScript
