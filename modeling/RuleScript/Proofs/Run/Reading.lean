import RuleScript.Proofs.Run.Assignment

/-!
What reading an element gives. The index is evaluated first, and its number is cut off to a whole
one; the variable is then looked up in the names that the index left. Where the whole number fits in
64 bits, reading succeeds: it gives the item at that place, and null where the variable has none
there, be it no array or too short, or the place negative. Only beyond 64 bits it fails, with the
message that the index is not numeric.
-/
namespace RuleScript

/-- The whole part of a number: its fraction is cut off towards zero. -/
def Decimal.wholePart (n : Decimal) : Int :=
  n.signed.tdiv (tenPow n.scale)

namespace Value

/-- What a value has at a place: the item there, where it is an array that reaches so far, and null
in all other cases. -/
inductive HasAt (held : Value) (place : Int) : Value → Prop
  | item {items : List Value} {i : Nat} {item : Value} : held = .array items → (i : Int) = place →
    items[i]? = some item → HasAt held place item
  | nothing : (∀ items (i : Nat), held = .array items → (i : Int) = place → items.length ≤ i) →
    HasAt held place .null

theorem hasAt_element (held : Value) (i : Nat) : held.HasAt i (held.element i) := by
  cases held with
  | array items =>
    cases there : items[i]? with
    | some item =>
      have found : (Value.array items).element i = item := by simp [element, there]
      rw [found]
      exact .item rfl rfl there
    | none =>
      have missing : (Value.array items).element i = .null := by simp [element, there]
      rw [missing]
      refine .nothing fun others j same at_j => ?_
      cases same
      obtain rfl : j = i := Int.ofNat.inj at_j
      exact List.getElem?_eq_none_iff.1 there
  | _ =>
    refine .nothing fun items j same _ => ?_
    cases same

theorem hasAt_negative (held : Value) {place : Int} (negative : place < 0) :
    held.HasAt place .null := by
  refine .nothing fun items i _ at_i => ?_
  omega

end Value

/-- A number addresses the element at its whole part, where that is not negative. Beyond 64 bits it
is refused. -/
theorem indexOf_number_eq (n : Decimal) :
    indexOf (.number n) =
      if fitsInt64 n.wholePart then
        .ok (if 0 ≤ n.wholePart then some n.wholePart.toNat else none)
      else .error (.typeError ("array index '" ++ n.toText ++ "' is not numeric")) := by
  have whole : (Value.number n).int64? =
      if fitsInt64 n.wholePart then some n.wholePart else none := n.toInt64?_eq
  change indexOf.addressed (.number n) = _
  unfold indexOf.addressed
  rw [whole]
  by_cases fits : fitsInt64 n.wholePart = true
  · rw [if_pos fits, if_pos fits]
  · rw [if_neg fits, if_neg fits]
    rfl

namespace Machine

variable {σ : Type} {context : Context σ}

/-- Once its index has a value, reading an element is the look-up, or the refusal of the index. -/
theorem evalNode_element {fuel : Nat} {place : σ} {target : VarRef} {index : Expr}
    (indexed : target.index = some index) {address : Value} {machine after : Machine}
    (evaluated : evalExpr context fuel place index machine = (.ok address, after)) :
    evalNode context (fuel + 2) place (.variable target) machine =
      match indexOf address with
      | .ok found =>
        (.ok ((after.names.lookup context.settings.caseSensitive target).part (some found)), after)
      | .error error => (.error (.failed error), after) := by
  unfold evalNode
  rw [indexed]
  cases addressed : indexOf address with
  | ok found =>
    have known : evalIndex context (fuel + 1) place (some index) machine =
        (.ok (some found), after) := by
      unfold evalIndex
      rw [Run.bind_ok evaluated, addressed]
      rfl
    rw [Run.bind_ok known, Run.read, Namespace.readAt_eq]
    rfl
  | error error =>
    have refused : evalIndex context (fuel + 1) place (some index) machine =
        (.error (.failed error), after) := by
      unfold evalIndex
      rw [Run.bind_ok evaluated, addressed]
      rfl
    exact Run.bind_error refused

/-- Reading an element at a number succeeds exactly where the whole part of the number fits in 64
bits. It then gives what the variable has at that place, and null where it has nothing there. Beyond
64 bits it fails, and the message calls the number not numeric. Either way the run is left as the
index left it, and what holds of the node holds of the expression in a run that is not traced. -/
theorem element_read_exact (context : Context σ) (fuel : Nat) (place : σ) (target : VarRef)
    (index : Expr) (indexed : target.index = some index) (n : Decimal) (machine after : Machine)
    (evaluated : evalExpr context fuel place index machine = (.ok (.number n), after)) :
    let read := evalNode context (fuel + 2) place (.variable target) machine
    let held := after.names.lookup context.settings.caseSensitive target
    (fitsInt64 n.wholePart = true →
      ∃ value, held.HasAt n.wholePart value ∧ read = (.ok value, after)) ∧
    (fitsInt64 n.wholePart = false →
      read = (.error (.failed (.typeError ("array index '" ++ n.toText ++ "' is not numeric"))),
        after)) ∧
    (context.traced = false →
      evalExpr context (fuel + 3) place (.variable target) machine = read) := by
  intro read held
  have looked : read = _ := evalNode_element indexed evaluated
  rw [indexOf_number_eq] at looked
  refine ⟨fun fits => ?_, fun wide => ?_, fun untraced => evalExpr_untraced untraced _ _ _ _⟩
  · rw [if_pos fits] at looked
    by_cases positive : 0 ≤ n.wholePart
    · obtain ⟨i, whole⟩ := Int.eq_ofNat_of_zero_le positive
      rw [if_pos positive, whole, Int.toNat_natCast] at looked
      exact ⟨held.element i, whole ▸ held.hasAt_element i, looked⟩
    · rw [if_neg positive] at looked
      exact ⟨.null, held.hasAt_negative (Int.not_le.1 positive), looked⟩
  · rw [wide] at looked
    exact looked

/-- A store with an array of two items. -/
def paired : Machine :=
  ⟨.root (.standard ((Variables.empty false).set "a" (.array [.ofInt 1, .ofInt 2]))), [], []⟩

/-- At one and nine tenths the item at place one is read. -/
theorem element_read_exact_fraction :
    let context : Context Scope := ⟨.standard 0, false, Scope.lookup⟩
    let fraction : Decimal := ⟨false, 19, 1, by decide, by decide⟩
    let target : VarRef := ⟨"a", some (.literal (.number fraction)), false⟩
    fitsInt64 fraction.wholePart = true ∧
      ∃ value, (paired.names.lookup true target).HasAt 1 value ∧
        evalExpr context 5 .empty (.variable target) paired = (.ok value, paired) := by
  intro context fraction target
  have one : fraction.wholePart = 1 := by decide
  have fits : fitsInt64 fraction.wholePart = true := by decide
  obtain ⟨succeeds, -, whole⟩ := element_read_exact context 2 .empty target
    (.literal (.number fraction)) rfl fraction paired paired rfl
  obtain ⟨value, has, read⟩ := succeeds fits
  rw [one] at has
  exact ⟨fits, value, has, (whole rfl).trans read⟩

/-- Reading fails at the first number past 64 bits, and not with a null like past the array. -/
theorem wide_index_refused :
    let target : VarRef := ⟨"a", some (.literal (.ofInt 9223372036854775808)), false⟩
    evalExpr ⟨.standard 0, false, Scope.lookup⟩ 5 .empty (.variable target) paired =
      (.error (.failed (.typeError "array index '9223372036854775808' is not numeric")),
        paired) := by
  rfl

end Machine
end RuleScript
