import Mathlib
import RuleScript.Proofs.Decimal.Numeral
import RuleScript.Proofs.Decimal.Rational

/-!
The text of a number as a text of a rational number. Without zeros to drop, a decimal has just as
many fractional digits as its number needs, so a number has one text whatever its representation
(`toText_congr`), and what the text looks like follows from the number alone (`isWritten_toText`).
Reading the text gives the number back, without a sign where it is zero (`numeral?_toText`).
-/
namespace RuleScript.Decimal

theorem sameNumber_iff_value (a b : Decimal) : a.sameNumber b = true ↔ a.value = b.value := by
  have left : (10 : ℚ) ^ a.scale ≠ 0 := by positivity
  have right : (10 : ℚ) ^ b.scale ≠ 0 := by positivity
  rw [sameNumber_iff, value, value, div_eq_div_iff left right, ← cast_tenPow, ← cast_tenPow]
  norm_cast

/-- The sign is shown below zero only. -/
theorem shows_sign_iff (d : Decimal) : (d.negative && !d.isZero) = true ↔ d.value < 0 := by
  have magnitude : (0 : ℚ) ≤ d.coefficient / 10 ^ d.scale := by positivity
  rw [Bool.and_eq_true, Bool.not_eq_true', ← Bool.not_eq_true, isZero_iff, value_eq]
  cases d.negative with
  | false => simpa [withSign] using magnitude
  | true =>
    simp only [withSign, if_true, true_and, neg_eq_zero, neg_lt_zero]
    exact ⟨fun nonzero => lt_of_le_of_ne magnitude (Ne.symm nonzero), ne_of_gt⟩

section Shortest

/-- There is no zero to drop behind the point. -/
def Reduced (coefficient scale : ℕ) : Prop :=
  scale = 0 ∨ coefficient % 10 ≠ 0

theorem reduced_dropZeros (coefficient scale : ℕ) :
    Reduced (dropZeros coefficient scale).1 (dropZeros coefficient scale).2 := by
  induction scale generalizing coefficient with
  | zero => exact .inl rfl
  | succ scale others =>
    unfold dropZeros
    split
    · exact others (coefficient / 10)
    · next nonzero => exact .inr nonzero

/-- No representation of the number has fewer fractional digits. -/
theorem Reduced.scale_le {coefficient scale other places : ℕ} (reduced : Reduced coefficient scale)
    (same : coefficient * tenPow places = other * tenPow scale) : scale ≤ places := by
  by_contra more
  obtain ⟨extra, rfl⟩ : ∃ extra, scale = places + (extra + 1) := ⟨scale - places - 1, by omega⟩
  have power : tenPow (places + (extra + 1)) = tenPow extra * 10 * tenPow places := by
    rw [← tenPow_succ, Nat.mul_comm]
    exact Nat.pow_add 10 places (extra + 1)
  rw [power, ← Nat.mul_assoc] at same
  have tens : coefficient = other * (tenPow extra * 10) :=
    Nat.eq_of_mul_eq_mul_right (tenPow_pos places) same
  rcases reduced with whole | nonzero
  · omega
  · rw [tens, ← Nat.mul_assoc, Nat.mul_mod_left] at nonzero
    exact nonzero rfl

theorem value_normalize (d : Decimal) : d.normalize.value = d.value := by
  have kept : d.normalize.coefficient * tenPow d.scale = d.coefficient * tenPow d.normalize.scale :=
    dropZeros_value d.coefficient d.scale
  have magnitude : (d.normalize.coefficient / 10 ^ d.normalize.scale : ℚ) =
      d.coefficient / 10 ^ d.scale := by
    rw [div_eq_div_iff (by positivity) (by positivity), ← cast_tenPow, ← cast_tenPow]
    exact_mod_cast kept
  rw [value_eq, value_eq, magnitude]
  rfl

/-- The shortest representation has just the fractional digits that the number needs. -/
theorem hasPlaces_value_iff (d : Decimal) (places : ℕ) :
    HasPlaces d.value places ↔ d.normalize.scale ≤ places := by
  constructor
  · rintro ⟨n, whole⟩
    have reduced : Reduced d.normalize.coefficient d.normalize.scale := reduced_dropZeros _ _
    have magnitude : |d.normalize.value| * 10 ^ places = |(n : ℚ)| := by
      rw [value_normalize, ← abs_scaled, whole]
    have positive : (0 : ℚ) ≤ d.normalize.coefficient / 10 ^ d.normalize.scale := by positivity
    have power : (10 : ℚ) ^ d.normalize.scale ≠ 0 := by positivity
    rw [value_eq, abs_withSign, abs_of_nonneg positive, div_mul_eq_mul_div,
      div_eq_iff power, ← Int.cast_abs, ← Nat.cast_natAbs, ← cast_tenPow, ← cast_tenPow] at magnitude
    have represented : d.normalize.coefficient * tenPow places =
        n.natAbs * tenPow d.normalize.scale := by
      exact_mod_cast magnitude
    exact reduced.scale_le represented
  · intro enough
    rw [← value_normalize]
    exact d.normalize.hasPlaces_value enough

/-- Representations of one number have one shortest representation, up to the sign of zero. -/
theorem normalize_congr {a b : Decimal} (same : a.value = b.value) :
    a.normalize.coefficient = b.normalize.coefficient ∧ a.normalize.scale = b.normalize.scale := by
  have scale : a.normalize.scale = b.normalize.scale := by
    apply Nat.le_antisymm
    · rw [← hasPlaces_value_iff, same, hasPlaces_value_iff]
    · rw [← hasPlaces_value_iff, ← same, hasPlaces_value_iff]
  refine ⟨?_, scale⟩
  have magnitudes : |a.normalize.value| = |b.normalize.value| := by
    rw [value_normalize, value_normalize, same]
  have power : (10 : ℚ) ^ b.normalize.scale ≠ 0 := by positivity
  rw [value_eq, value_eq, abs_withSign, abs_withSign, abs_of_nonneg (by positivity),
    abs_of_nonneg (by positivity), scale, div_left_inj' power] at magnitudes
  exact_mod_cast magnitudes

end Shortest

/-- A number has one text, whatever its representation. -/
theorem toText_congr {a b : Decimal} (same : a.value = b.value) : a.toText = b.toText := by
  obtain ⟨coefficient, scale⟩ := normalize_congr same
  have sign : (a.negative && !a.isZero) = (b.negative && !b.isZero) := by
    rw [Bool.eq_iff_iff, shows_sign_iff, shows_sign_iff, same]
  simp only [toText, toChars, coefficient, scale, sign]

section Reading

variable {text : List Char} {n : Decimal}

theorem IsNumeral.read (numeral : IsNumeral text n) :
    readWhole? 0 false text = some (n.coefficient, n.scale) := by
  have read := numeral.value
  rw [ofChars?_of_opens numeral.opens] at read
  obtain ⟨parts, found, made⟩ := Option.bind_eq_some_iff.1 read
  unfold ofParts? at made
  split at made
  · cases made
    exact found
  · cases made

/-- A sign in front of a numeral is read with it. -/
theorem IsNumeral.read_negative (numeral : IsNumeral text n) :
    ofChars? ('-' :: text) = some { n with negative := !n.isZero } := by
  have parts : ofChars? ('-' :: text) = ofParts? true n.coefficient n.scale := by
    simp only [ofChars?, splitSign, numeral.read]
    rfl
  rw [parts, ofParts?, dif_pos ⟨n.coefficient_lt, n.scale_le⟩]
  rfl

theorem IsNumeral.exists_digit (numeral : IsNumeral text n) : ∃ c ∈ text, c.isDigit = true := by
  obtain ⟨c, rest, rfl, digit⟩ := numeral.opens
  exact ⟨c, List.mem_cons_self, digit⟩

theorem IsNumeral.numeral?_ofList (numeral : IsNumeral text n) :
    numeral? (String.ofList text) = some n := by
  rw [numeral?_of_plain (fun c among => (numeral.chars c among).imp_right .inl)
    numeral.exists_digit, numeral.value]

theorem IsNumeral.numeral?_negative (numeral : IsNumeral text n) :
    numeral? (String.ofList ('-' :: text)) = some { n with negative := !n.isZero } := by
  obtain ⟨c, among, digit⟩ := numeral.exists_digit
  rw [numeral?_of_plain ?_ ⟨c, List.mem_cons_of_mem _ among, digit⟩, numeral.read_negative]
  intro c among
  rcases List.mem_cons.1 among with rfl | inside
  · exact .inr (.inr rfl)
  · exact (numeral.chars c inside).imp_right .inl

end Reading

theorem isZero_normalize (d : Decimal) : d.normalize.isZero = d.isZero := by
  rw [Bool.eq_iff_iff, isZero_iff, isZero_iff, value_normalize]

/-- The digits that are written for a number are a numeral for its magnitude. -/
theorem magnitude_isNumeral (d : Decimal) :
    IsNumeral (plainDigits d.normalize.coefficient d.normalize.scale) d.normalize.abs :=
  plainDigits_isNumeral d.normalize.coefficient_lt d.normalize.scale_le

/-- The text of a number is read as its shortest representation. -/
theorem numeral?_toText (d : Decimal) : numeral? d.toText = some d.normalize.unsignedZero := by
  have magnitude := d.magnitude_isNumeral
  have zero : d.normalize.unsignedZero =
      { d.normalize with negative := d.negative && !d.isZero } := by
    rw [unsignedZero, isZero_normalize]
    rfl
  rw [zero, toText, toChars]
  cases shown : d.negative && !d.isZero with
  | false => exact magnitude.numeral?_ofList
  | true =>
    have nonzero : d.normalize.abs.isZero = false := by
      have same : d.normalize.abs.isZero = d.isZero := d.isZero_normalize
      rw [same]
      simpa using (Bool.and_eq_true_iff.1 shown).2
    rw [if_pos rfl, magnitude.numeral?_negative, nonzero]
    rfl

theorem value_read_back (d : Decimal) : d.normalize.unsignedZero.value = d.value :=
  (value_unsignedZero _).trans d.value_normalize

section Form

theorem getLast?_digits (n : ℕ) : (digits n).getLast? = some (n % 10).digitChar := by
  rcases Nat.lt_or_ge n 10 with small | large
  · rw [digits, Nat.toDigits_of_lt_base small, Nat.mod_eq_of_lt small]
    rfl
  · rw [digits, Nat.toDigits_of_base_le (by decide) large, List.getLast?_concat]

/-- The last digit behind the point is the last one of the coefficient. -/
theorem getLast?_plainDigits (coefficient scale : ℕ) :
    (plainDigits coefficient scale).getLast? = some (coefficient % 10).digitChar := by
  unfold plainDigits
  split
  · exact getLast?_digits coefficient
  · next fractional =>
    have divides : 10 ∣ tenPow scale := dvd_pow_self 10 fractional
    rw [List.getLast?_append, List.getLast?_cons, fractionDigits, List.getLast?_append,
      getLast?_digits, Nat.mod_mod_of_dvd _ divides]
    rfl

theorem point_mem_plainDigits (coefficient scale : ℕ) :
    '.' ∈ plainDigits coefficient scale ↔ scale ≠ 0 := by
  unfold plainDigits
  split
  · next whole =>
    exact ⟨fun among => absurd rfl (ne_point_of_isDigit (isDigit_of_mem_digits among)),
      fun fractional => absurd whole fractional⟩
  · next fractional => simp [fractional]

theorem sign_not_mem {text : List Char} {n : Decimal} (numeral : IsNumeral text n) :
    '-' ∉ text := by
  intro among
  rcases numeral.chars _ among with digit | point
  · cases digit
  · cases point

/-- How a number is written: in digits, without an exponent, with a sign below zero only and with a
point only where there is a fraction, and the fraction does not end in a zero. What is written is
the number. -/
structure IsWritten (text : String) (x : ℚ) : Prop where
  chars : ∀ c ∈ text.toList, c.isDigit = true ∨ c = '.' ∨ c = '-'
  sign : '-' ∈ text.toList ↔ x < 0
  point : '.' ∈ text.toList ↔ ¬HasPlaces x 0
  ends : '.' ∈ text.toList → text.toList.getLast? ≠ some '0'
  read : ∃ d, numeral? text = some d ∧ d.value = x

theorem toList_toText (d : Decimal) :
    d.toText.toList = if d.value < 0 then
      '-' :: plainDigits d.normalize.coefficient d.normalize.scale
      else plainDigits d.normalize.coefficient d.normalize.scale := by
  rw [toText, String.toList_ofList, toChars]
  simp only [shows_sign_iff]

theorem isWritten_toText (d : Decimal) : IsWritten d.toText d.value := by
  have magnitude := d.magnitude_isNumeral
  have reduced : Reduced d.normalize.coefficient d.normalize.scale := reduced_dropZeros _ _
  have unsigned := sign_not_mem magnitude
  have point : '.' ∈ d.toText.toList ↔ d.normalize.scale ≠ 0 := by
    rw [toList_toText, ← point_mem_plainDigits d.normalize.coefficient]
    split <;> simp
  have last : d.toText.toList.getLast? = some (d.normalize.coefficient % 10).digitChar := by
    rw [toList_toText]
    split
    · rw [List.getLast?_cons, getLast?_plainDigits]
      rfl
    · exact getLast?_plainDigits _ _
  refine ⟨?_, ?_, ?_, ?_, _, d.numeral?_toText, d.value_read_back⟩
  · intro c among
    rw [toList_toText] at among
    split at among
    · rcases List.mem_cons.1 among with rfl | inside
      · exact .inr (.inr rfl)
      · exact (magnitude.chars c inside).imp_right .inl
    · exact (magnitude.chars c among).imp_right .inl
  · rw [toList_toText]
    split
    · next negative => simp [negative]
    · next positive => simp [positive, unsigned]
  · rw [point, hasPlaces_value_iff, Nat.le_zero]
  · intro fractional
    have nonzero := reduced.resolve_left (point.1 fractional)
    rw [last]
    intro same
    exact nonzero (Nat.digitChar_eq_zero.1 (Option.some.inj same))

end Form

end RuleScript.Decimal
