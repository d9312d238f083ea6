import Mathlib
import RuleScript.Decimal.Rounding

/-!
Decimals as the rational numbers that they stand for, and what rounding does to these. For each mode
`Rounding.Rounds` says which whole number a rational number is rounded to; it does so in terms of
distances and sides only, and there is just one such number. Rounding a decimal to some fractional
digits is that, applied to the number times a power of ten (`Decimal.isRounded_round`). It changes
nothing exactly where the number has no more digits than are kept.
-/
namespace RuleScript

/-- A magnitude with a sign put to it. -/
def withSign {α : Type} [Neg α] (negative : Bool) (magnitude : α) : α :=
  if negative then -magnitude else magnitude

theorem abs_withSign (negative : Bool) (x : ℚ) : |withSign negative x| = |x| := by
  cases negative
  · rfl
  · exact abs_neg x

theorem withSign_sub (negative : Bool) (x y : ℚ) :
    withSign negative x - withSign negative y = withSign negative (x - y) := by
  cases negative
  · rfl
  · simp only [withSign, if_true]
    ring

theorem withSign_mul (negative : Bool) (x y : ℚ) :
    withSign negative x * y = withSign negative (x * y) := by
  cases negative
  · rfl
  · exact neg_mul x y

theorem withSign_natAbs (n : ℤ) : withSign (n < 0) (n.natAbs : ℚ) = n := by
  rw [Nat.cast_natAbs]
  by_cases negative : n < 0
  · simp [withSign, negative, abs_of_neg negative]
  · simp [withSign, negative, abs_of_nonneg (not_lt.1 negative)]

theorem cast_withSign (negative : Bool) (n : ℤ) :
    ((withSign negative n : ℤ) : ℚ) = withSign negative (n : ℚ) := by
  cases negative
  · rfl
  · exact Int.cast_neg n

namespace Rounding

/-- The whole number that a mode rounds a rational number to: one of the two next to it, on the side
or at the distance that the mode asks for. -/
def Rounds (mode : Rounding) (x : ℚ) (n : ℤ) : Prop :=
  |n - x| < 1 ∧
    match mode with
    | .halfEven => |n - x| ≤ 1 / 2 ∧ (|n - x| = 1 / 2 → Even n)
    | .halfUp => |n - x| ≤ 1 / 2 ∧ (|n - x| = 1 / 2 → |x| ≤ |(n : ℚ)|)
    | .halfDown => |n - x| ≤ 1 / 2 ∧ (|n - x| = 1 / 2 → |(n : ℚ)| ≤ |x|)
    | .up => |x| ≤ |(n : ℚ)|
    | .down => |(n : ℚ)| ≤ |x|
    | .ceiling => x ≤ n
    | .floor => n ≤ x

/-- A quotient is its whole part and a fraction. -/
theorem quotient_parts (num den : ℕ) (positive : 0 < den) :
    (num / den : ℚ) = (num / den : ℕ) + (num % den : ℕ) / (den : ℚ) := by
  have nonzero : (den : ℚ) ≠ 0 := by positivity
  field_simp
  exact_mod_cast (Nat.div_add_mod num den).symm

/-- Rounding cuts the fraction off or, where the mode raises, goes to the next whole number. -/
theorem divide_cases (mode : Rounding) (negative : Bool) (num den : ℕ) :
    (mode.divide negative num den = num / den ∧
      mode.raises negative (num / den) (num % den) den = false) ∨
    (mode.divide negative num den = num / den + 1 ∧
      mode.raises negative (num / den) (num % den) den = true) := by
  unfold divide
  cases raised : mode.raises negative (num / den) (num % den) den with
  | false => exact .inl ⟨rfl, rfl⟩
  | true => exact .inr ⟨rfl, rfl⟩

/-- When a mode goes to the next whole number, in terms of the fraction behind a whole part. -/
def Raises (mode : Rounding) (negative : Bool) (whole : ℕ) (fraction : ℚ) : Prop :=
  match mode with
  | .halfEven => 1 / 2 < fraction ∨ fraction = 1 / 2 ∧ Odd whole
  | .halfUp => 1 / 2 ≤ fraction
  | .halfDown => 1 / 2 < fraction
  | .up => 0 < fraction
  | .down => False
  | .ceiling => 0 < fraction ∧ negative = false
  | .floor => 0 < fraction ∧ negative = true

theorem raises_iff (mode : Rounding) (negative : Bool) (whole rest : ℕ) {den : ℕ}
    (positive : 0 < den) :
    mode.raises negative whole rest den = true ↔ mode.Raises negative whole (rest / den) := by
  have denominator : (0 : ℚ) < den := by exact_mod_cast positive
  have above : (1 / 2 : ℚ) < rest / den ↔ den < 2 * rest := by
    rw [div_lt_div_iff₀ two_pos denominator, one_mul, mul_comm]
    exact_mod_cast Iff.rfl
  have middle : (rest / den : ℚ) = 1 / 2 ↔ 2 * rest = den := by
    rw [div_eq_div_iff denominator.ne' two_ne_zero, one_mul, mul_comm]
    exact_mod_cast Iff.rfl
  have present : (0 : ℚ) < rest / den ↔ 0 < rest := by
    rw [div_pos_iff_of_pos_right denominator]
    exact_mod_cast Iff.rfl
  unfold Raises
  cases mode with
  | halfEven =>
    simp only [above, middle, Nat.odd_iff]
    simp [raises]
  | halfUp =>
    rw [le_iff_lt_or_eq', above, middle]
    simp only [raises, decide_eq_true_eq]
    omega
  | halfDown =>
    rw [above]
    exact decide_eq_true_iff
  | up => simp [raises, present]
  | down => simp [raises]
  | ceiling => simp [raises, present]
  | floor => simp [raises, present]

/-- Rounding in terms of magnitudes. Only the modes that go to one side look at the sign. -/
def RoundsMagnitude (mode : Rounding) (negative : Bool) (x : ℚ) (n : ℕ) : Prop :=
  |n - x| < 1 ∧
    match mode with
    | .halfEven => |n - x| ≤ 1 / 2 ∧ (|n - x| = 1 / 2 → Even n)
    | .halfUp => |n - x| ≤ 1 / 2 ∧ (|n - x| = 1 / 2 → x ≤ n)
    | .halfDown => |n - x| ≤ 1 / 2 ∧ (|n - x| = 1 / 2 → n ≤ x)
    | .up => x ≤ n
    | .down => n ≤ x
    | .ceiling => if negative then n ≤ x else x ≤ n
    | .floor => if negative then x ≤ n else n ≤ x

theorem rounds_withSign (mode : Rounding) (negative : Bool) {x : ℚ} (magnitude : 0 ≤ x) (n : ℕ) :
    mode.Rounds (withSign negative x) (withSign negative (n : ℤ)) ↔
      mode.RoundsMagnitude negative x n := by
  have even : Even (withSign negative (n : ℤ)) ↔ Even n := by
    cases negative <;> simp [withSign]
  unfold Rounds RoundsMagnitude
  rw [cast_withSign, withSign_sub, abs_withSign, abs_withSign, abs_withSign, Int.cast_natCast,
    abs_of_nonneg magnitude, Nat.abs_cast, even]
  cases mode with
  | ceiling => cases negative <;> simp [withSign]
  | floor => cases negative <;> simp [withSign]
  | _ => exact Iff.rfl

section Fraction

variable {mode : Rounding} {negative : Bool} {whole : ℕ} {fraction : ℚ}

/-- With the fraction cut off, the distance is the fraction. -/
theorem roundsMagnitude_kept (low : 0 ≤ fraction) (high : fraction < 1)
    (kept : ¬mode.Raises negative whole fraction) :
    mode.RoundsMagnitude negative (whole + fraction) whole := by
  have distance : |(whole : ℚ) - (whole + fraction)| = fraction := by
    rw [sub_add_cancel_left, abs_neg, abs_of_nonneg low]
  unfold Raises at kept
  unfold RoundsMagnitude
  rw [distance]
  refine ⟨high, ?_⟩
  cases mode with
  | halfEven =>
    rw [not_or, not_lt, not_and, Nat.not_odd_iff_even] at kept
    exact kept
  | halfUp => exact ⟨(not_le.1 kept).le, fun tie => absurd tie.ge kept⟩
  | halfDown => exact ⟨not_lt.1 kept, fun _ => by linarith⟩
  | up => linarith [not_lt.1 kept]
  | down => linarith
  | ceiling => cases negative <;> simp at kept ⊢ <;> linarith
  | floor => cases negative <;> simp at kept ⊢ <;> linarith

/-- The next whole number is at the distance that the fraction lacks of one. -/
theorem roundsMagnitude_raised (high : fraction < 1)
    (raised : mode.Raises negative whole fraction) :
    mode.RoundsMagnitude negative (whole + fraction) (whole + 1) := by
  have distance : |((whole + 1 : ℕ) : ℚ) - (whole + fraction)| = 1 - fraction := by
    rw [Nat.cast_add, Nat.cast_one, add_sub_add_left_eq_sub, abs_of_pos (sub_pos.2 high)]
  have above : (whole + fraction : ℚ) ≤ (whole + 1 : ℕ) := by
    push_cast
    linarith
  unfold Raises at raised
  unfold RoundsMagnitude
  rw [distance]
  cases mode with
  | halfEven =>
    rcases raised with more | ⟨tie, odd⟩
    · exact ⟨by linarith, by linarith, fun tie => by linarith⟩
    · exact ⟨by linarith, by linarith, fun _ => odd.add_one⟩
  | halfUp => exact ⟨by linarith, by linarith, fun _ => above⟩
  | halfDown => exact ⟨by linarith, by linarith, fun tie => by linarith⟩
  | up => exact ⟨by linarith, above⟩
  | down => exact raised.elim
  | ceiling =>
    obtain ⟨present, rfl⟩ := raised
    exact ⟨by linarith, above⟩
  | floor =>
    obtain ⟨present, rfl⟩ := raised
    exact ⟨by linarith, above⟩

end Fraction

/-- The quotient of magnitudes is rounded as the mode says. -/
theorem rounds_divide (mode : Rounding) (negative : Bool) (num den : ℕ) (positive : 0 < den) :
    mode.Rounds (withSign negative (num / den : ℚ))
      (withSign negative (mode.divide negative num den : ℤ)) := by
  have magnitude : (0 : ℚ) ≤ num / den := by positivity
  have raises := raises_iff mode negative (num / den) (num % den) positive
  have low : (0 : ℚ) ≤ (num % den : ℕ) / den := by positivity
  have high : ((num % den : ℕ) / den : ℚ) < 1 := by
    rw [div_lt_one (by exact_mod_cast positive)]
    exact_mod_cast Nat.mod_lt num positive
  rw [rounds_withSign mode negative magnitude, quotient_parts num den positive]
  rcases divide_cases mode negative num den with ⟨value, kept⟩ | ⟨value, raised⟩
  · rw [← Bool.not_eq_true, raises] at kept
    rw [value]
    exact roundsMagnitude_kept low high kept
  · rw [raises] at raised
    rw [value]
    exact roundsMagnitude_raised high raised

/-- A whole number is rounded to itself. -/
theorem rounds_self (mode : Rounding) (n : ℤ) : mode.Rounds n n := by
  have distance : |(n : ℚ) - n| = 0 := by rw [sub_self, abs_zero]
  have near : |(n : ℚ) - n| ≤ 1 / 2 := by rw [distance]; norm_num
  have apart : |(n : ℚ) - n| ≠ 1 / 2 := by rw [distance]; norm_num
  refine ⟨by rw [distance]; exact one_pos, ?_⟩
  cases mode with
  | halfEven => exact ⟨near, fun tie => absurd tie apart⟩
  | halfUp => exact ⟨near, fun tie => absurd tie apart⟩
  | halfDown => exact ⟨near, fun tie => absurd tie apart⟩
  | _ => exact le_rfl

theorem Rounds.eq_of_whole {mode : Rounding} {x : ℚ} {n m : ℤ} (rounds : mode.Rounds x n)
    (whole : x = m) : n = m := by
  have near := rounds.1
  rw [whole] at near
  have close : |n - m| < 1 := by exact_mod_cast near
  exact sub_eq_zero.1 (Int.abs_lt_one_iff.1 close)

/-- Of the two whole numbers around a number, one is nearer to zero and the other further off. -/
theorem abs_between {x : ℚ} {n : ℤ} (below : n < x) (above : x < (n + 1 : ℤ)) :
    |(n : ℚ)| < |x| ∧ |x| < |((n + 1 : ℤ) : ℚ)| ∨ |((n + 1 : ℤ) : ℚ)| < |x| ∧ |x| < |(n : ℚ)| := by
  rcases lt_or_ge n 0 with negative | positive
  · have left : ((n + 1 : ℤ) : ℚ) ≤ 0 := by exact_mod_cast negative
    rw [abs_of_nonpos left, abs_of_neg (above.trans_le left), abs_of_neg (by linarith)]
    exact .inr ⟨neg_lt_neg above, neg_lt_neg below⟩
  · have right : (0 : ℚ) ≤ n := by exact_mod_cast positive
    rw [abs_of_nonneg right, abs_of_pos (right.trans_lt below), abs_of_pos (by linarith)]
    exact .inl ⟨below, above⟩

theorem Rounds.le {mode : Rounding} {x : ℚ} {n m : ℤ} (first : mode.Rounds x n)
    (second : mode.Rounds x m) : m ≤ n := by
  by_contra less
  obtain ⟨near, choice⟩ := first
  obtain ⟨near', choice'⟩ := second
  rw [abs_lt] at near near'
  -- Both are next to the number, so they are the whole numbers around it.
  obtain rfl : m = n + 1 := by
    have close : (m : ℚ) < (n + 2 : ℤ) := by push_cast; linarith
    have bound : m < n + 2 := by exact_mod_cast close
    omega
  have sides : ((n + 1 : ℤ) : ℚ) = n + 1 := by push_cast; rfl
  have below : (n : ℚ) < x := by linarith
  have above : x < (n + 1 : ℤ) := by linarith
  have distance : |(n : ℚ) - x| = x - n := by rw [abs_of_neg (by linarith), neg_sub]
  have distance' : |((n + 1 : ℤ) : ℚ) - x| = n + 1 - x := by rw [abs_of_pos (by linarith), sides]
  have between := abs_between below above
  cases mode with
  | halfEven =>
    obtain ⟨half, tie⟩ := choice
    obtain ⟨half', tie'⟩ := choice'
    exact Int.even_add_one.1 (tie' (by linarith)) (tie (by linarith))
  | halfUp =>
    obtain ⟨half, tie⟩ := choice
    obtain ⟨half', tie'⟩ := choice'
    have far := tie (by linarith)
    have far' := tie' (by linarith)
    rcases between with ⟨nearer, -⟩ | ⟨nearer, -⟩ <;> linarith
  | halfDown =>
    obtain ⟨half, tie⟩ := choice
    obtain ⟨half', tie'⟩ := choice'
    have close := tie (by linarith)
    have close' := tie' (by linarith)
    rcases between with ⟨-, further⟩ | ⟨-, further⟩ <;> linarith
  | up => rcases between with ⟨nearer, -⟩ | ⟨nearer, -⟩ <;> linarith
  | down => rcases between with ⟨-, further⟩ | ⟨-, further⟩ <;> linarith
  | ceiling => exact absurd choice below.not_ge
  | floor => exact absurd choice' above.not_ge

/-- A mode decides for one whole number. -/
theorem Rounds.unique {mode : Rounding} {x : ℚ} {n m : ℤ} (first : mode.Rounds x n)
    (second : mode.Rounds x m) : n = m :=
  le_antisymm (second.le first) (first.le second)

/-- The mode treats both signs alike. -/
def IsSymmetric (mode : Rounding) : Prop :=
  mode ≠ .ceiling ∧ mode ≠ .floor

theorem Rounds.neg {mode : Rounding} {x : ℚ} {n : ℤ} (symmetric : mode.IsSymmetric)
    (rounds : mode.Rounds x n) : mode.Rounds (-x) (-n) := by
  have distance : |((-n : ℤ) : ℚ) - -x| = |n - x| := by
    rw [Int.cast_neg, neg_sub_neg, abs_sub_comm]
  unfold Rounds at rounds ⊢
  rw [distance]
  cases mode with
  | ceiling => exact absurd rfl symmetric.1
  | floor => exact absurd rfl symmetric.2
  | _ => simpa using rounds

/-- A mode that treats both signs alike rounds the magnitude to a magnitude. -/
theorem Rounds.abs {mode : Rounding} {x : ℚ} {n : ℤ} (symmetric : mode.IsSymmetric)
    (rounds : mode.Rounds x n) : mode.Rounds |x| |n| := by
  have near := abs_lt.1 rounds.1
  rcases le_or_gt 0 x with positive | negative
  · have above : (-1 : ℚ) < n := by linarith
    have magnitude : -1 < n := by exact_mod_cast above
    rw [abs_of_nonneg positive, abs_of_nonneg (Int.le_of_sub_one_lt magnitude)]
    exact rounds
  · have below : (n : ℚ) < 1 := by linarith
    have magnitude : n < 1 := by exact_mod_cast below
    rw [abs_of_neg negative, abs_of_nonpos (Int.le_of_lt_add_one magnitude)]
    exact rounds.neg symmetric

/-- Rounded half to even, a number stays below an even bound unless it comes within half a unit. -/
theorem Rounds.abs_lt_iff {x : ℚ} {n bound : ℤ} (rounds : halfEven.Rounds x n)
    (even : Even bound) : |n| < bound ↔ |x| < bound - 1 / 2 := by
  obtain ⟨-, near, tie⟩ := rounds
  have outer : |(n : ℚ)| - |x| ≤ |n - x| := abs_sub_abs_le_abs_sub _ _
  have inner : |x| - |(n : ℚ)| ≤ |n - x| := abs_sub_comm x n ▸ abs_sub_abs_le_abs_sub x n
  constructor
  · intro bounded
    by_contra far
    rw [not_lt] at far
    -- The number is then halfway between an odd whole number and the bound.
    have below : |n| ≤ bound - 1 := Int.le_sub_one_of_lt bounded
    have below' : |(n : ℚ)| ≤ bound - 1 := by exact_mod_cast below
    have reached : (bound : ℚ) - 1 ≤ |(n : ℚ)| := by linarith
    have last : |n| = bound - 1 := le_antisymm below (by exact_mod_cast reached)
    have even' : Even |n| := even_abs.2 (tie (by linarith))
    rw [last] at even'
    exact Int.even_add_one.1 ((Int.sub_add_cancel bound 1).symm ▸ even) even'
  · intro fits
    have below : |(n : ℚ)| < bound := by linarith
    exact_mod_cast below

end Rounding

namespace Decimal

theorem cast_tenPow (n : ℕ) : (tenPow n : ℚ) = 10 ^ n := by
  exact_mod_cast Nat.cast_pow 10 n

/-- The rational number that a decimal stands for. -/
def value (d : Decimal) : ℚ :=
  d.signed / 10 ^ d.scale

theorem signed_eq (d : Decimal) : d.signed = withSign d.negative (d.coefficient : ℤ) := rfl

theorem value_eq (d : Decimal) :
    d.value = withSign d.negative (d.coefficient / 10 ^ d.scale : ℚ) := by
  rw [value, signed_eq, cast_withSign, Int.cast_natCast, div_eq_mul_inv, withSign_mul,
    div_eq_mul_inv]

theorem value_neg (d : Decimal) : d.neg.value = -d.value := by
  rw [value_eq, value_eq]
  cases sign : d.negative <;> simp [neg, withSign, sign]

theorem value_abs (d : Decimal) : d.abs.value = |d.value| := by
  rw [value_eq, value_eq, abs_withSign]
  have magnitude : (0 : ℚ) ≤ d.coefficient / 10 ^ d.scale := by positivity
  exact (abs_of_nonneg magnitude).symm

theorem isZero_iff (d : Decimal) : d.isZero = true ↔ d.value = 0 := by
  rw [isZero, beq_iff_eq, ← abs_eq_zero, value_eq, abs_withSign, abs_eq_zero, div_eq_zero_iff]
  simp

/-- The number has at most so many fractional digits. -/
def HasPlaces (x : ℚ) (places : ℕ) : Prop :=
  ∃ n : ℤ, x * 10 ^ places = n

theorem HasPlaces.neg {x : ℚ} {places : ℕ} (short : HasPlaces x places) :
    HasPlaces (-x) places := by
  obtain ⟨n, whole⟩ := short
  exact ⟨-n, by rw [neg_mul, whole, Int.cast_neg]⟩

theorem hasPlaces_neg_iff {x : ℚ} {places : ℕ} : HasPlaces (-x) places ↔ HasPlaces x places :=
  ⟨fun short => neg_neg x ▸ short.neg, HasPlaces.neg⟩

theorem hasPlaces_abs_iff {x : ℚ} {places : ℕ} : HasPlaces |x| places ↔ HasPlaces x places := by
  rcases abs_choice x with same | opposite
  · rw [same]
  · rw [opposite, hasPlaces_neg_iff]

theorem abs_scaled (x : ℚ) (places : ℕ) : |x * 10 ^ places| = |x| * 10 ^ places := by
  have power : (0 : ℚ) < 10 ^ places := by positivity
  rw [abs_mul, abs_of_pos power]

theorem hasPlaces_value (d : Decimal) {places : ℕ} (enough : d.scale ≤ places) :
    HasPlaces d.value places := by
  obtain ⟨more, rfl⟩ := Nat.exists_eq_add_of_le enough
  refine ⟨d.signed * 10 ^ more, ?_⟩
  unfold value
  rw [pow_add]
  push_cast
  field_simp

/-- The decimal is a rational number rounded to so many fractional digits. -/
def IsRounded (mode : Rounding) (places : ℕ) (x : ℚ) (d : Decimal) : Prop :=
  ∃ n : ℤ, mode.Rounds (x * 10 ^ places) n ∧ d.value = n / 10 ^ places

namespace IsRounded

variable {mode : Rounding} {places : ℕ} {x : ℚ} {d : Decimal}

theorem hasPlaces (rounded : d.IsRounded mode places x) : HasPlaces d.value places := by
  obtain ⟨n, -, same⟩ := rounded
  exact ⟨n, by rw [same]; field_simp⟩

/-- Rounding leaves a number as it is exactly where it has no more digits than are kept. -/
theorem value_eq_iff (rounded : d.IsRounded mode places x) :
    d.value = x ↔ HasPlaces x places := by
  refine ⟨fun same => same ▸ rounded.hasPlaces, fun ⟨m, whole⟩ => ?_⟩
  obtain ⟨n, rounds, same⟩ := rounded
  rw [same, rounds.eq_of_whole whole, ← whole]
  field_simp

/-- Where both signs are treated alike, the magnitude of a rounded number is the rounded
magnitude. -/
theorem value_abs_eq (symmetric : mode.IsSymmetric) {e : Decimal}
    (rounded : d.IsRounded mode places x) (magnitude : e.IsRounded mode places |x|) :
    |d.value| = e.value := by
  obtain ⟨n, rounds, same⟩ := rounded
  obtain ⟨m, rounds', same'⟩ := magnitude
  have power : (0 : ℚ) < 10 ^ places := by positivity
  have alike : |n| = m := (abs_scaled x places ▸ rounds.abs symmetric).unique rounds'
  rw [same, same', abs_div, abs_of_pos power, ← alike, Int.cast_abs]

end IsRounded

theorem isRounded_self (mode : Rounding) {places : ℕ} {d : Decimal}
    (short : HasPlaces d.value places) : d.IsRounded mode places d.value := by
  obtain ⟨n, whole⟩ := short
  refine ⟨n, whole ▸ mode.rounds_self n, ?_⟩
  rw [← whole]
  field_simp

theorem value_unsignedZero (d : Decimal) : d.unsignedZero.value = d.value := by
  cases zero : d.isZero with
  | true =>
    have same : d.unsignedZero.isZero = true := zero
    rw [(isZero_iff _).1 zero, (isZero_iff _).1 same]
  | false =>
    have same : d.unsignedZero = d := by simp [unsignedZero, zero]
    rw [same]

theorem isRounded_cut (mode : Rounding) (places : ℕ) (d : Decimal) :
    (d.cut mode places).IsRounded mode places d.value := by
  unfold cut
  split
  · next fewer =>
    obtain ⟨dropped, sum⟩ := Nat.exists_eq_add_of_le fewer.le
    have rounds := mode.rounds_divide d.negative d.coefficient (tenPow (d.scale - places))
      (tenPow_pos _)
    have exact : d.value * 10 ^ places =
        withSign d.negative (d.coefficient / tenPow (d.scale - places) : ℚ) := by
      rw [value_eq, withSign_mul, cast_tenPow, sum, Nat.add_sub_cancel_left, pow_add]
      congr 1
      field_simp
    exact ⟨_, exact ▸ rounds, rfl⟩
  · next enough => exact d.isRounded_self mode (d.hasPlaces_value (Nat.le_of_not_lt enough))

theorem isRounded_round (mode : Rounding) (places : ℕ) (d : Decimal) :
    (d.round mode places).IsRounded mode places d.value := by
  unfold round
  split
  · next zero =>
    have none : (d.zeroWith places).value = 0 := (isZero_iff _).1 rfl
    refine ⟨0, ?_, ?_⟩
    · rw [(isZero_iff _).1 zero, zero_mul]
      exact mode.rounds_self 0
    · rw [none, Int.cast_zero, zero_div]
  · obtain ⟨n, rounds, same⟩ := d.isRounded_cut mode places
    exact ⟨n, rounds, (value_unsignedZero _).trans same⟩

end Decimal
end RuleScript
