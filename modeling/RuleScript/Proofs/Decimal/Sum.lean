import RuleScript.Decimal.Arithmetic
import RuleScript.Proofs.Decimal.Rational

/-!
Sums and differences of decimals. A result keeps as many fractional digits as it has room for and is
rounded half to even in the last of them (`Approximates`). Room is lacking only for numbers that no
decimal stands for, so the result is exact whenever some decimal is; and there is no result exactly
where there is no room for the whole part.
-/
namespace RuleScript.Decimal

/-- Rounded half to even to some fractional digits, the number has a coefficient within bounds. -/
def Fits (x : ℚ) (places : ℕ) : Prop :=
  |x| * 10 ^ places < coefficientBound - 1 / 2

theorem Fits.mono {x : ℚ} {places fewer : ℕ} (fits : Fits x places) (less : fewer ≤ places) :
    Fits x fewer := by
  have powers : (10 : ℚ) ^ fewer ≤ 10 ^ places := pow_le_pow_right₀ (by norm_num) less
  exact (mul_le_mul_of_nonneg_left powers (abs_nonneg x)).trans_lt fits

/-- The bound is even, so half a unit below it is rounded up to it. -/
theorem abs_lt_bound_iff {x : ℚ} {places : ℕ} {n : ℤ}
    (rounds : Rounding.halfEven.Rounds (x * 10 ^ places) n) :
    |n| < coefficientBound ↔ Fits x places := by
  have even : Even (coefficientBound : ℤ) := ⟨2 ^ 95, by norm_num⟩
  rw [rounds.abs_lt_iff even, abs_scaled]
  rfl

/-- A decimal stands for a rational number rounded half to even. Where it is not exact, the number
has no room for one digit more. -/
structure Approximates (d : Decimal) (x : ℚ) : Prop where
  rounded : d.IsRounded .halfEven d.scale x
  longest : d.value ≠ x → ¬Fits x (d.scale + 1)

theorem abs_value_scaled (d : Decimal) : |d.value| * 10 ^ d.scale = d.coefficient := by
  have magnitude : (0 : ℚ) ≤ d.coefficient / 10 ^ d.scale := by positivity
  rw [value_eq, abs_withSign, abs_of_nonneg magnitude]
  field_simp

/-- The number of a decimal has room for all digits of the decimal. -/
theorem fits_value (d : Decimal) : Fits d.value d.scale := by
  have below : (d.coefficient : ℚ) + 1 ≤ coefficientBound := by exact_mod_cast d.coefficient_lt
  unfold Fits
  rw [abs_value_scaled]
  generalize (coefficientBound : ℚ) = bound at below ⊢
  linarith

namespace Approximates

variable {d : Decimal} {x : ℚ}

theorem refl (d : Decimal) : d.Approximates d.value :=
  ⟨isRounded_self _ (d.hasPlaces_value le_rfl), fun differs => absurd rfl differs⟩

theorem fits (approximates : d.Approximates x) : Fits x d.scale := by
  obtain ⟨n, rounds, same⟩ := approximates.rounded
  refine (abs_lt_bound_iff rounds).1 ?_
  have scaled : (n : ℚ) = d.value * 10 ^ d.scale := by rw [same]; field_simp
  have magnitude : |(n : ℚ)| = d.coefficient := by rw [scaled, abs_scaled, abs_value_scaled]
  have bounded : |(n : ℚ)| < coefficientBound := by
    rw [magnitude]
    exact_mod_cast d.coefficient_lt
  exact_mod_cast bounded

/-- An approximation is exact whenever some decimal is. -/
theorem exact (approximates : d.Approximates x) (other : Decimal) (same : other.value = x) :
    d.value = x := by
  by_contra differs
  have digits : ¬HasPlaces x d.scale := fun places =>
    differs (approximates.rounded.value_eq_iff.2 places)
  have longer : d.scale < other.scale := by
    by_contra shorter
    exact digits (same ▸ other.hasPlaces_value (Nat.le_of_not_lt shorter))
  exact approximates.longest differs (same ▸ other.fits_value.mono longer)

end Approximates

/-- What is found has the largest scale at which the coefficient is below the bound. -/
theorem nearest?_eq_some {bound num den limit coefficient scale : ℕ}
    (found : nearest? bound num den limit = some (coefficient, scale)) :
    coefficient = Rounding.halfEven.divide false (num * tenPow scale) den ∧
      (scale = limit ∨
        bound ≤ Rounding.halfEven.divide false (num * tenPow (scale + 1)) den) := by
  induction limit with
  | zero =>
    simp only [nearest?] at found
    split at found
    · cases found
      exact ⟨by rw [tenPow_zero, Nat.mul_one], .inl rfl⟩
    · cases found
  | succ limit shorter =>
    simp only [nearest?] at found
    split at found
    · cases found
      exact ⟨rfl, .inl rfl⟩
    · next tooLarge =>
      obtain ⟨value, rfl | more⟩ := shorter found
      · exact ⟨value, .inr (Nat.le_of_not_lt tooLarge)⟩
      · exact ⟨value, .inr more⟩

theorem nearest?_eq_none {bound num den limit : ℕ} (found : nearest? bound num den limit = none) :
    bound ≤ Rounding.halfEven.divide false num den := by
  induction limit with
  | zero =>
    simp only [nearest?] at found
    split at found
    · cases found
    · next tooLarge => exact Nat.le_of_not_lt tooLarge
  | succ limit shorter =>
    simp only [nearest?] at found
    split at found
    · cases found
    · exact shorter found

/-- A scaled quotient of magnitudes is rounded to a coefficient. -/
theorem rounds_quotient (negative : Bool) (num scale : ℕ) {den : ℕ} (positive : 0 < den) :
    Rounding.halfEven.Rounds (withSign negative (num / den : ℚ) * 10 ^ scale)
      (withSign negative (Rounding.halfEven.divide false (num * tenPow scale) den : ℤ)) := by
  have rounds := Rounding.halfEven.rounds_divide negative (num * tenPow scale) den positive
  have scaled : withSign negative (num / den : ℚ) * 10 ^ scale =
      withSign negative ((num * tenPow scale : ℕ) / den : ℚ) := by
    rw [withSign_mul, Nat.cast_mul, cast_tenPow, div_mul_eq_mul_div]
  rw [scaled]
  exact rounds

theorem fits_quotient_iff (negative : Bool) (num scale : ℕ) {den : ℕ} (positive : 0 < den) :
    Fits (withSign negative (num / den : ℚ)) scale ↔
      Rounding.halfEven.divide false (num * tenPow scale) den < coefficientBound := by
  rw [← abs_lt_bound_iff (rounds_quotient negative num scale positive)]
  have magnitude (n : ℕ) : |withSign negative (n : ℤ)| = n := by
    cases negative <;> simp [withSign]
  rw [magnitude]
  exact Int.ofNat_lt

/-- A quotient is approximated where its whole part fits, and else there is no result. -/
theorem ofQuotient?_cases {negative : Bool} {num den limit : ℕ} (limited : limit ≤ maxScale)
    (positive : 0 < den) {x : ℚ} (quotient : x = withSign negative (num / den : ℚ))
    (short : HasPlaces x limit) :
    (ofQuotient? negative num den limit limited = none ∧ ¬Fits x 0) ∨
      ∃ d, ofQuotient? negative num den limit limited = some d ∧ d.Approximates x := by
  subst quotient
  unfold ofQuotient?
  split
  · next none =>
    refine .inl ⟨rfl, ?_⟩
    rw [fits_quotient_iff negative num 0 positive, tenPow_zero, Nat.mul_one, Nat.not_lt]
    exact nearest?_eq_none none
  · next coefficient scale found =>
    obtain ⟨value, longest⟩ := nearest?_eq_some found
    have bounds := nearest?_bounds found
    have unsigned : withSign (negative && coefficient != 0) (coefficient : ℤ) =
        withSign negative (coefficient : ℤ) := by
      cases coefficient <;> cases negative <;> rfl
    refine .inr ⟨_, rfl, ?_⟩
    have rounded : IsRounded .halfEven scale (withSign negative (num / den : ℚ))
        ⟨negative && coefficient != 0, coefficient, scale, bounds.1, bounds.2.trans limited⟩ := by
      refine ⟨withSign negative (coefficient : ℤ), ?_, ?_⟩
      · rw [value]
        exact rounds_quotient negative num scale positive
      · rw [Decimal.value, signed_eq, unsigned]
    refine ⟨rounded, fun differs => ?_⟩
    rcases longest with rfl | more
    · exact absurd (rounded.value_eq_iff.2 short) differs
    · rw [fits_quotient_iff negative num (scale + 1) positive, Nat.not_lt]
      exact more

/-- Two decimals are brought to the larger scale to be added. -/
theorem value_add_value (a b : Decimal) :
    a.value + b.value =
      (a.signed * tenPow (max a.scale b.scale - a.scale) +
        b.signed * tenPow (max a.scale b.scale - b.scale) : ℤ) / 10 ^ max a.scale b.scale := by
  have brought (d : Decimal) {scale : ℕ} (enough : d.scale ≤ scale) :
      d.value = d.signed * 10 ^ (scale - d.scale) / 10 ^ scale := by
    obtain ⟨more, rfl⟩ := Nat.exists_eq_add_of_le enough
    rw [Nat.add_sub_cancel_left, pow_add, value]
    field_simp
  rw [brought a (Nat.le_max_left _ _), brought b (Nat.le_max_right _ _)]
  push_cast
  rw [cast_tenPow, cast_tenPow, add_div]

/-- A sum is approximated where its whole part fits, and else there is none. -/
theorem add?_cases (a b : Decimal) :
    (a.add? b = none ∧ ¬Fits (a.value + b.value) 0) ∨
      ∃ d, a.add? b = some d ∧ d.Approximates (a.value + b.value) := by
  unfold add?
  split
  · next zero =>
    rw [(isZero_iff a).1 zero, zero_add]
    exact .inr ⟨b, rfl, .refl b⟩
  split
  · next zero =>
    rw [(isZero_iff b).1 zero, add_zero]
    exact .inr ⟨a, rfl, .refl a⟩
  refine ofQuotient?_cases _ (tenPow_pos _) ?_ ⟨_, by rw [value_add_value]; field_simp⟩
  rw [value_add_value, cast_tenPow, div_eq_mul_inv, div_eq_mul_inv, ← withSign_mul, withSign_natAbs]

theorem sub?_cases (a b : Decimal) :
    (a.sub? b = none ∧ ¬Fits (a.value - b.value) 0) ∨
      ∃ d, a.sub? b = some d ∧ d.Approximates (a.value - b.value) := by
  unfold sub?
  split
  · next zeros =>
    obtain ⟨first, second⟩ := Bool.and_eq_true_iff.1 zeros
    rw [(isZero_iff a).1 first, zero_sub, (isZero_iff b).1 second, neg_zero]
    exact .inr ⟨b, rfl, (isZero_iff b).1 second ▸ .refl b⟩
  · rw [sub_eq_add_neg, ← value_neg]
    exact add?_cases a b.neg

end RuleScript.Decimal
