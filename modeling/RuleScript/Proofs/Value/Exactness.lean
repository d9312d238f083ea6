import RuleScript.Proofs.Decimal.Sum
import RuleScript.Run.Builtins
import RuleScript.Run.Operators

/-!
How exact the numbers are that sums, differences and changes of sign give. A sum or difference is
exact whenever some decimal is the exact result (`Operator.Totals`); it is rounded half to even in
its last digit only where no decimal is, and the settings have no part in it. Changing or dropping a
sign, on the other hand, rounds to the fractional digits that the settings keep, so it is exact
exactly for numbers that have no more digits than that.
-/
namespace RuleScript

open Decimal

/-- A computation ends in a number that stands for a rational number. -/
def Gives (result : Except EvalError Value) (x : ℚ) : Prop :=
  ∃ n : Decimal, result = .ok (.number n) ∧ n.value = x

namespace Operator

/-- What comes of a sum or difference of numbers. -/
structure Totals (op : Operator) (x : ℚ) (result : Except EvalError Value) : Prop where
  /-- Where there is a decimal for it, the result is exact. -/
  exact : ∀ d : Decimal, d.value = x → Gives result x
  /-- It overflows exactly where it is rounded to a whole number past the bound. -/
  overflow : result = .error (.overflow op.spelling) ↔ coefficientBound - 1 / 2 ≤ |x|
  /-- Else it is rounded in the last digit that there is room for. -/
  rounded : |x| < coefficientBound - 1 / 2 →
    ∃ n : Decimal, result = .ok (.number n) ∧ n.Approximates x

theorem fits_zero_iff (x : ℚ) : Fits x 0 ↔ |x| < coefficientBound - 1 / 2 := by
  rw [Fits, pow_zero, mul_one]

theorem totals_fitting (op : Operator) {x : ℚ} {total : Option Decimal}
    (cases : (total = none ∧ ¬Fits x 0) ∨ ∃ n, total = some n ∧ n.Approximates x) :
    op.Totals x ((fitting op total).map .number) := by
  rcases cases with ⟨rfl, large⟩ | ⟨n, rfl, approximates⟩
  · refine ⟨fun d same => ?_, ?_, fun small => ?_⟩
    · exact absurd (same ▸ d.fits_value.mono (Nat.zero_le _)) large
    · rw [fits_zero_iff, not_lt] at large
      exact ⟨fun _ => large, fun _ => rfl⟩
    · exact absurd ((fits_zero_iff x).2 small) large
  · have small := (fits_zero_iff x).1 (approximates.fits.mono (Nat.zero_le _))
    refine ⟨fun d same => ⟨n, rfl, approximates.exact d same⟩, ?_, fun _ => ⟨n, rfl, approximates⟩⟩
    exact ⟨fun failed => (by cases failed), fun large => absurd small large.not_gt⟩

variable {left right : Value} {a b : Decimal}

/-- With a number on one side, numeric texts are added as numbers, the text first. -/
theorem apply_add (settings : Settings) (first : left.number? = some a)
    (second : right.number? = some b)
    (number : Builtin.isNumber left = true ∨ Builtin.isNumber right = true) :
    Operator.add.apply settings left right = (fitting .add (a.add? b)).map .number ∨
      Operator.add.apply settings left right = (fitting .add (b.add? a)).map .number := by
  cases left with
  | number n =>
    cases first
    cases right with
    | number m =>
      cases second
      exact .inl rfl
    | text s =>
      right
      have spelled : numeral? s = some b := second
      simp only [apply, sum, spelled]
    | _ => cases second
  | text s =>
    have spelled : numeral? s = some a := first
    cases right with
    | number m =>
      cases second
      left
      simp only [apply, sum, spelled]
    | text t => simp [Builtin.isNumber] at number
    | _ => cases second
  | _ => cases first

theorem numericOperand_of_number? (op : Operator) {value : Value} {n : Decimal}
    (numeric : value.number? = some n) : numericOperand op value = .ok n := by
  rw [numericOperand, numeric]

theorem apply_subtract (settings : Settings) (first : left.number? = some a)
    (second : right.number? = some b) :
    Operator.subtract.apply settings left right = (fitting .subtract (a.sub? b)).map .number := by
  have operands : (do
      let x ← numericOperand .subtract left
      let y ← numericOperand .subtract right
      (fitting .subtract (x.sub? y)).map Value.number) =
        (fitting .subtract (a.sub? b)).map Value.number := by
    rw [numericOperand_of_number? _ first, numericOperand_of_number? _ second]
    rfl
  cases left with
  | number n =>
    cases right with
    | number m => exact operands
    | text t => exact operands
    | _ => cases second
  | text s =>
    cases right with
    | number m => exact operands
    | text t => exact operands
    | _ => cases second
  | _ => cases first

theorem totals_add (settings : Settings) (first : left.number? = some a)
    (second : right.number? = some b)
    (number : Builtin.isNumber left = true ∨ Builtin.isNumber right = true) :
    Totals .add (a.value + b.value) (Operator.add.apply settings left right) := by
  rcases apply_add settings first second number with applied | applied
  · rw [applied]
    exact totals_fitting .add (add?_cases a b)
  · rw [applied, add_comm]
    exact totals_fitting .add (add?_cases b a)

/-- Sums and differences of numbers and numeric texts, also with a text on both sides of a
difference. Where some decimal is the exact result, so is the one that comes out. -/
theorem totals_exact (settings : Settings) (left right : Value) (a b : Decimal)
    (first : left.number? = some a) (second : right.number? = some b) :
    (Builtin.isNumber left = true ∨ Builtin.isNumber right = true →
      Totals .add (a.value + b.value) (Operator.add.apply settings left right)) ∧
    Totals .subtract (a.value - b.value) (Operator.subtract.apply settings left right) := by
  refine ⟨totals_add settings first second, ?_⟩
  rw [apply_subtract settings first second]
  exact totals_fitting .subtract (sub?_cases a b)

/-- A text and a number, two texts, and one more than the largest number. -/
theorem totals_exact_spelled :
    let tenth : Decimal := ⟨false, 1, 1, by decide, by decide⟩
    let fifth : Decimal := ⟨false, 2, 1, by decide, by decide⟩
    let most : Decimal := ⟨false, coefficientBound - 1, 0, by decide, by decide⟩
    (Value.text " 0.1").number? = some tenth ∧
      Gives (Operator.add.apply (.standard 0) (.text " 0.1") (.number fifth)) (3 / 10) ∧
      Gives (Operator.subtract.apply (.standard 0) (.text " 0.1") (.text "+.2")) (-1 / 10) ∧
      Operator.add.apply (.standard 0) (.number most) (.number .one) = .error (.overflow "+") := by
  intro tenth fifth most
  have first : (Value.text " 0.1").number? = some tenth := by decide +kernel
  have second : (Value.text "+.2").number? = some fifth := by decide +kernel
  obtain ⟨sum, -⟩ := totals_exact (.standard 0) _ (.number fifth) tenth fifth first rfl
  obtain ⟨-, difference⟩ := totals_exact (.standard 0) _ _ tenth fifth first second
  obtain ⟨large, -⟩ := totals_exact (.standard 0) (.number most) (.number .one) most .one rfl rfl
  refine ⟨first, ?_, ?_, ?_⟩
  · convert (sum (.inr rfl)).exact ⟨false, 3, 1, by decide, by decide⟩ ?_ using 1
    all_goals norm_num [value, signed, tenth, fifth]
  · convert difference.exact ⟨true, 1, 1, by decide, by decide⟩ ?_ using 1
    all_goals norm_num [value, signed, tenth, fifth]
  · refine (large (.inl rfl)).overflow.2 ?_
    norm_num [value, signed, most, Decimal.one, ofNatLT]

/-- Eight and a one in the last place that a decimal can have: the sum has no room for that place,
and it is dropped. -/
theorem sum_drops_last_place :
    let eight : Decimal := ⟨false, 8, 0, by decide, by decide⟩
    let last : Decimal := ⟨false, 1, 28, by decide, by decide⟩
    Gives (Operator.add.apply (.standard 0) (.number eight) (.number last)) 8 ∧
      eight.value + last.value ≠ 8 := by
  intro eight last
  have total : eight.add? last =
      some ⟨false, 8000000000000000000000000000, 27, by decide, by decide⟩ := by
    decide +kernel
  have applied : Operator.add.apply (.standard 0) (.number eight) (.number last) =
      (fitting .add (eight.add? last)).map .number := rfl
  rw [applied, total]
  refine ⟨⟨_, rfl, ?_⟩, ?_⟩
  · norm_num [value, signed]
  · norm_num [value, signed, eight, last]

end Operator

namespace Builtin

/-- A function on decimals takes a number, or a text that spells one, and rounds its result. -/
theorem exact_of_number? (function : Builtin) (settings : Settings)
    (compute : Decimal → Option Decimal) {value : Value} {n : Decimal}
    (numeric : value.number? = some n) :
    function.exact settings compute value = .ok (rounded settings (compute n)) := by
  have argument : function.numericArgument value = .ok (some n) := by
    cases value with
    | number m =>
      cases numeric
      rfl
    | text s =>
      have spelled : numeral? s = some n := numeric
      rw [numericArgument, spelled]
    | _ => cases numeric
  rw [exact, argument]
  rfl

theorem apply_neg (settings : Settings) {value : Value} {n : Decimal}
    (numeric : value.number? = some n) :
    Builtin.neg.apply settings [value] = .ok (.number (settings.round n.neg)) :=
  exact_of_number? .neg settings (fun n => some n.neg) numeric

theorem apply_abs (settings : Settings) {value : Value} {n : Decimal}
    (numeric : value.number? = some n) :
    Builtin.abs.apply settings [value] = .ok (.number (settings.round n.abs)) :=
  exact_of_number? .abs settings (fun n => some n.abs) numeric

theorem isRounded_neg (settings : Settings) (n : Decimal) :
    (settings.round n.neg).IsRounded settings.rounding settings.scale (-n.value) :=
  n.value_neg ▸ isRounded_round settings.rounding settings.scale n.neg

theorem isRounded_abs (settings : Settings) (n : Decimal) :
    (settings.round n.abs).IsRounded settings.rounding settings.scale |n.value| :=
  n.value_abs ▸ isRounded_round settings.rounding settings.scale n.abs

/-- Negation and magnitude of a number, or of a text that spells one, are the exact ones rounded as
the settings say. They are exact exactly where the number has no more fractional digits than the
settings keep. A number like that is its own double negation, cancels with its negation, and has the
magnitude of its negation. The last holds of all numbers where rounding treats both signs alike. -/
theorem signs_exact (settings : Settings) (value : Value) (x : Decimal)
    (numeric : value.number? = some x) :
    ∃ y z : Decimal,
      Builtin.neg.apply settings [value] = .ok (.number y) ∧
      Builtin.abs.apply settings [value] = .ok (.number z) ∧
      y.IsRounded settings.rounding settings.scale (-x.value) ∧
      z.IsRounded settings.rounding settings.scale |x.value| ∧
      (y.value = -x.value ↔ HasPlaces x.value settings.scale) ∧
      (z.value = |x.value| ↔ HasPlaces x.value settings.scale) ∧
      (HasPlaces x.value settings.scale →
        Gives (Builtin.neg.apply settings [.number y]) x.value ∧
        Gives (Operator.add.apply settings value (.number y)) 0) ∧
      (HasPlaces x.value settings.scale ∨ settings.rounding.IsSymmetric →
        Gives (Builtin.abs.apply settings [.number y]) z.value) := by
  have negated := isRounded_neg settings x
  have magnitude := isRounded_abs settings x
  have exactNeg := negated.value_eq_iff.trans hasPlaces_neg_iff
  have exactAbs := magnitude.value_eq_iff.trans hasPlaces_abs_iff
  refine ⟨_, _, apply_neg settings numeric, apply_abs settings numeric, negated, magnitude,
    exactNeg, exactAbs, fun short => ⟨?_, ?_⟩, fun kept => ?_⟩
  · have back :=
      (isRounded_neg settings (settings.round x.neg)).value_eq_iff.2 negated.hasPlaces.neg
    rw [exactNeg.2 short, neg_neg] at back
    exact ⟨_, apply_neg settings rfl, back⟩
  · have operand : (Value.number (settings.round x.neg)).number? = some (settings.round x.neg) :=
      rfl
    have total := Operator.totals_add settings numeric operand (.inr rfl)
    rw [exactNeg.2 short, add_neg_cancel] at total
    exact total.exact .zero ((isZero_iff _).1 rfl)
  · have again := (isRounded_abs settings (settings.round x.neg)).value_eq_iff.2
      (hasPlaces_abs_iff.2 negated.hasPlaces)
    refine ⟨_, apply_abs settings rfl, again.trans ?_⟩
    rcases kept with short | symmetric
    · rw [exactNeg.2 short, exactAbs.2 short, abs_neg]
    · exact negated.value_abs_eq symmetric ((abs_neg x.value).symm ▸ magnitude)

/-- A text with two fractional digits, where ten are kept. -/
theorem signs_exact_short :
    let x : Decimal := ⟨true, 125, 2, by decide, by decide⟩
    (Value.text "-1.25").number? = some x ∧ HasPlaces x.value (Settings.standard 0).scale ∧
      ∃ y : Decimal, Builtin.neg.apply (.standard 0) [.text "-1.25"] = .ok (.number y) ∧
        y.value = 5 / 4 ∧ Gives (Builtin.neg.apply (.standard 0) [.number y]) (-5 / 4) ∧
        Gives (Operator.add.apply (.standard 0) (.text "-1.25") (.number y)) 0 := by
  intro x
  have numeric : (Value.text "-1.25").number? = some x := by decide +kernel
  have number : x.value = -5 / 4 := by norm_num [value, signed, x]
  have short : HasPlaces x.value (Settings.standard 0).scale := hasPlaces_value x (by decide)
  obtain ⟨y, z, negated, -, -, -, exactNeg, -, laws, -⟩ := signs_exact (.standard 0) _ x numeric
  obtain ⟨back, cancels⟩ := laws short
  refine ⟨numeric, short, y, negated, ?_, number ▸ back, cancels⟩
  rw [exactNeg.2 short, number]
  norm_num

/-- A number with one fractional digit more than are kept: its negation, its magnitude and its
double negation lack the last one. -/
theorem neg_drops_last_digit :
    let x : Decimal := ⟨false, 12345678901, 11, by decide, by decide⟩
    let y : Decimal := ⟨true, 1234567890, 10, by decide, by decide⟩
    let z : Decimal := ⟨false, 1234567890, 10, by decide, by decide⟩
    Builtin.neg.apply (.standard 0) [.number x] = .ok (.number y) ∧ y.value ≠ -x.value ∧
      Builtin.abs.apply (.standard 0) [.number x] = .ok (.number z) ∧ z.value ≠ |x.value| ∧
      Builtin.neg.apply (.standard 0) [.number y] = .ok (.number z) ∧ z.value ≠ x.value := by
  intro x y z
  have negated : (Settings.standard 0).round x.neg = y := by decide +kernel
  have magnitude : (Settings.standard 0).round x.abs = z := by decide +kernel
  have back : (Settings.standard 0).round y.neg = z := by decide +kernel
  rw [apply_neg _ rfl, apply_abs _ rfl, apply_neg _ rfl, negated, magnitude, back]
  refine ⟨rfl, ?_, rfl, ?_, rfl, ?_⟩ <;> norm_num [value, signed, x, y, z]

end Builtin
end RuleScript
