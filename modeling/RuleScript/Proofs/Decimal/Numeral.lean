import RuleScript.Decimal.Printer
import RuleScript.Decimal.Reader
import RuleScript.Decimal.Rounding

/-!
The text of a number is read back as the number. A number is written with all its digits and, below
the bounds of a decimal, is read digit by digit, so the text of a decimal without sign gives back
its coefficient and scale (`plainDigits_isNumeral`). The representation with the fewest fractional
digits, which is the one that is written, stands for the same number. A whole number in the usual
notation is read back as well, its sign included.
-/
namespace RuleScript

/-- Without blanks there is nothing to trim. -/
theorem Text.trimChars_of_clear {text : List Char} (clear : ∀ c ∈ text, isBlank c = false) :
    trimChars text = text := by
  have kept : ∀ {chars : List Char}, (∀ c ∈ chars, isBlank c = false) →
      chars.dropWhile isBlank = chars := by
    intro chars none
    cases chars with
    | nil => rfl
    | cons c rest => simp [none c List.mem_cons_self]
  unfold trimChars trimEnd trimStart
  rw [kept clear, kept (by simpa using clear), List.reverse_reverse]

namespace Decimal

theorem le_ofDigitChars (text : List Char) (start : Nat) :
    start ≤ Nat.ofDigitChars 10 text start := by
  rw [Nat.ofDigitChars_eq_ofDigitChars_zero]
  have scaled := Nat.le_mul_of_pos_left start (Nat.pow_pos (n := text.length) (by decide : 0 < 10))
  omega

theorem ne_point_of_isDigit {c : Char} (digit : c.isDigit = true) : c ≠ '.' := by
  rintro rfl
  cases digit

theorem digit?_of_isDigit {c : Char} (digit : c.isDigit = true) :
    digit? c = some (c.toNat - '0'.toNat) :=
  if_pos digit

/-- Digits in front of the rest are taken into the coefficient. -/
theorem readWhole?_append {text : List Char} (digits : ∀ c ∈ text, c.isDigit = true)
    {coefficient : Nat} (bounded : Nat.ofDigitChars 10 text coefficient < coefficientBound)
    (hasDigit : Bool) (rest : List Char) :
    readWhole? coefficient hasDigit (text ++ rest) =
      readWhole? (Nat.ofDigitChars 10 text coefficient) (hasDigit || !text.isEmpty) rest := by
  induction text generalizing coefficient hasDigit with
  | nil => simp
  | cons c text others =>
    have digit := digits c List.mem_cons_self
    rw [Nat.ofDigitChars_cons, Nat.mul_comm] at bounded ⊢
    have smaller := Nat.lt_of_le_of_lt (le_ofDigitChars text _) bounded
    rw [List.cons_append, readWhole?, if_neg (ne_point_of_isDigit digit), digit?_of_isDigit digit]
    simp only [Option.bind_eq_bind, Option.bind_some, if_pos smaller]
    rw [others (fun c among => digits c (List.mem_cons_of_mem _ among)) bounded]
    simp

/-- Digits behind the point are taken into the coefficient and counted in the scale. -/
theorem readFraction?_digits {text : List Char} (digits : ∀ c ∈ text, c.isDigit = true)
    {coefficient scale : Nat} (short : scale + text.length ≤ maxScale)
    (bounded : Nat.ofDigitChars 10 text coefficient < coefficientBound) :
    readFraction? coefficient scale true text =
      some (Nat.ofDigitChars 10 text coefficient, scale + text.length) := by
  induction text generalizing coefficient scale with
  | nil => simp [readFraction?]
  | cons c text others =>
    have digit := digits c List.mem_cons_self
    rw [Nat.ofDigitChars_cons, Nat.mul_comm] at bounded ⊢
    rw [List.length_cons] at short ⊢
    have smaller := Nat.lt_of_le_of_lt (le_ofDigitChars text _) bounded
    rw [readFraction?, digit?_of_isDigit digit]
    simp only [Option.bind_eq_bind, Option.bind_some]
    rw [if_pos ⟨by omega, smaller⟩,
      others (fun c among => digits c (List.mem_cons_of_mem _ among)) (by omega) bounded]
    congr 2
    omega

theorem isDigit_of_mem_digits {n : Nat} {c : Char} (among : c ∈ digits n) : c.isDigit = true :=
  Nat.isDigit_of_mem_toDigits (by decide) (by decide) among

theorem isDigit_of_mem_fractionDigits {width n : Nat} {c : Char}
    (among : c ∈ fractionDigits width n) : c.isDigit = true := by
  rcases List.mem_append.1 among with padding | digit
  · rw [List.eq_of_mem_replicate padding]
    rfl
  · exact isDigit_of_mem_digits digit

theorem ofDigitChars_digits (n : Nat) : Nat.ofDigitChars 10 (digits n) 0 = n :=
  Nat.ofDigitChars_ten_toDigits

/-- A fraction that has at most as many digits as its width is written with that many. -/
theorem length_fractionDigits {width n : Nat} (positive : 0 < width) (fits : n < tenPow width) :
    (fractionDigits width n).length = width := by
  have short : (digits n).length ≤ width :=
    (Nat.length_toDigits_le_iff (by decide) positive).2 fits
  rw [fractionDigits, List.length_append, List.length_replicate]
  omega

theorem ofDigitChars_fractionDigits {width n : Nat} (positive : 0 < width)
    (fits : n < tenPow width) (start : Nat) :
    Nat.ofDigitChars 10 (fractionDigits width n) start = start * tenPow width + n := by
  rw [Nat.ofDigitChars_eq_ofDigitChars_zero, length_fractionDigits positive fits, fractionDigits,
    Nat.ofDigitChars_append, Nat.ofDigitChars_replicate_zero, Nat.mul_zero, ofDigitChars_digits,
    Nat.mul_comm]
  rfl

/-- The text has digits and at most one point, which stands between digits, and it is read as the
number. -/
structure IsNumeral (text : List Char) (n : Decimal) : Prop where
  opens : ∃ c rest, text = c :: rest ∧ c.isDigit = true
  chars : ∀ c ∈ text, c.isDigit = true ∨ c = '.'
  points : text.count '.' ≤ 1
  ends : text.getLast? ≠ some '.'
  value : ofChars? text = some n

theorem digits_opens (n : Nat) : ∃ c rest, digits n = c :: rest ∧ c.isDigit = true := by
  cases all : digits n with
  | nil => exact absurd all Nat.toDigits_ne_nil
  | cons c rest => exact ⟨c, rest, rfl, isDigit_of_mem_digits (all ▸ List.mem_cons_self)⟩

theorem count_point_digits {text : List Char} (digits : ∀ c ∈ text, c.isDigit = true) :
    text.count '.' = 0 :=
  List.count_eq_zero.2 fun among => ne_point_of_isDigit (digits _ among) rfl

theorem getLast?_ne_point {text : List Char} (digits : ∀ c ∈ text, c.isDigit = true) :
    text.getLast? ≠ some '.' :=
  fun last => ne_point_of_isDigit (digits _ (List.mem_of_getLast? last)) rfl

/-- A text that opens with a digit has no sign to split off. -/
theorem ofChars?_of_opens {text : List Char}
    (opens : ∃ c rest, text = c :: rest ∧ c.isDigit = true) :
    ofChars? text = (readWhole? 0 false text).bind fun read => ofParts? false read.1 read.2 := by
  obtain ⟨c, rest, rfl, digit⟩ := opens
  have unsigned : splitSign (c :: rest) = (false, c :: rest) := by
    unfold splitSign
    split
    · next same =>
      cases same
      cases digit
    · next same =>
      cases same
      cases digit
    · rfl
  unfold ofChars?
  rw [unsigned]
  rfl

theorem ofParts?_of_bounded {coefficient scale : Nat} (bounded : coefficient < coefficientBound)
    (short : scale ≤ maxScale) :
    ofParts? false coefficient scale = some ⟨false, coefficient, scale, bounded, short⟩ :=
  dif_pos ⟨bounded, short⟩

/-- A numeral opens with a digit, and what is read from it makes the number. -/
theorem isNumeral_of_read {text : List Char} {coefficient scale : Nat}
    (opens : ∃ c rest, text = c :: rest ∧ c.isDigit = true)
    (chars : ∀ c ∈ text, c.isDigit = true ∨ c = '.') (points : text.count '.' ≤ 1)
    (ends : text.getLast? ≠ some '.')
    (read : readWhole? 0 false text = some (coefficient, scale))
    (bounded : coefficient < coefficientBound) (short : scale ≤ maxScale) :
    IsNumeral text ⟨false, coefficient, scale, bounded, short⟩ := by
  refine ⟨opens, chars, points, ends, ?_⟩
  rw [ofChars?_of_opens opens, read, Option.bind_some, ofParts?_of_bounded bounded short]

theorem readWhole?_digits {coefficient : Nat} (bounded : coefficient < coefficientBound) :
    readWhole? 0 false (digits coefficient) = some (coefficient, 0) := by
  have whole : ∀ c ∈ digits coefficient, c.isDigit = true := fun c => isDigit_of_mem_digits
  have taken := readWhole?_append whole
    (by rwa [ofDigitChars_digits] : Nat.ofDigitChars 10 (digits coefficient) 0 < _) false []
  obtain ⟨c, rest, opens, -⟩ := digits_opens coefficient
  rw [List.append_nil, ofDigitChars_digits, opens] at taken
  rw [opens]
  exact taken

theorem digits_isNumeral {coefficient : Nat} (bounded : coefficient < coefficientBound) :
    IsNumeral (digits coefficient) ⟨false, coefficient, 0, bounded, Nat.zero_le _⟩ := by
  have whole : ∀ c ∈ digits coefficient, c.isDigit = true := fun c => isDigit_of_mem_digits
  refine isNumeral_of_read (digits_opens coefficient) (fun c among => .inl (whole c among)) ?_
    (getLast?_ne_point whole) (readWhole?_digits bounded) bounded _
  rw [count_point_digits whole]
  exact Nat.zero_le 1

theorem pointed_isNumeral {coefficient scale : Nat} (bounded : coefficient < coefficientBound)
    (short : scale ≤ maxScale) (positive : 0 < scale) :
    IsNumeral (digits (coefficient / tenPow scale) ++
        '.' :: fractionDigits scale (coefficient % tenPow scale))
      ⟨false, coefficient, scale, bounded, short⟩ := by
  have fits := Nat.mod_lt coefficient (tenPow_pos scale)
  have length := length_fractionDigits positive fits
  have whole : ∀ c ∈ digits (coefficient / tenPow scale), c.isDigit = true :=
    fun c => isDigit_of_mem_digits
  have fraction : ∀ c ∈ fractionDigits scale (coefficient % tenPow scale), c.isDigit = true :=
    fun c => isDigit_of_mem_fractionDigits
  have value : Nat.ofDigitChars 10 (fractionDigits scale (coefficient % tenPow scale))
      (coefficient / tenPow scale) = coefficient := by
    rw [ofDigitChars_fractionDigits positive fits, Nat.div_add_mod']
  obtain ⟨first, others, opens, digit⟩ := digits_opens (coefficient / tenPow scale)
  have read : readWhole? 0 false (digits (coefficient / tenPow scale) ++
      '.' :: fractionDigits scale (coefficient % tenPow scale)) = some (coefficient, scale) := by
    rw [readWhole?_append whole, ofDigitChars_digits, readWhole?, if_pos rfl, opens]
    · refine (readFraction?_digits fraction ?_ ?_).trans ?_
      · rwa [length, Nat.zero_add]
      · rwa [value]
      · rw [value, length, Nat.zero_add]
    · rw [ofDigitChars_digits]
      exact Nat.lt_of_le_of_lt (Nat.div_le_self _ _) bounded
  have last : (fractionDigits scale (coefficient % tenPow scale)).getLast? ≠ none := by
    rw [ne_eq, List.getLast?_eq_none_iff, ← List.length_eq_zero_iff, length]
    exact Nat.ne_of_gt positive
  refine isNumeral_of_read ⟨first, _, by rw [opens, List.cons_append], digit⟩ (fun c among => ?_)
    ?_ ?_ read bounded short
  · rcases List.mem_append.1 among with before | behind
    · exact .inl (whole c before)
    · exact (List.mem_cons.1 behind).elim .inr fun after => .inl (fraction c after)
  · have before := count_point_digits whole
    have behind := count_point_digits fraction
    rw [List.count_append, List.count_cons_self]
    omega
  · obtain ⟨c, found⟩ := Option.ne_none_iff_exists'.1 last
    rw [List.getLast?_append, List.getLast?_cons, found]
    rintro ⟨⟩
    exact getLast?_ne_point fraction found

/-- All digits of a number, with its point, are a numeral for it. -/
theorem plainDigits_isNumeral {coefficient scale : Nat} (bounded : coefficient < coefficientBound)
    (short : scale ≤ maxScale) :
    IsNumeral (plainDigits coefficient scale) ⟨false, coefficient, scale, bounded, short⟩ := by
  unfold plainDigits
  split
  · next none =>
    subst none
    exact digits_isNumeral bounded
  · next some => exact pointed_isNumeral bounded short (Nat.pos_of_ne_zero some)

/-- Dropping zeros changes the representation only. -/
theorem dropZeros_value (coefficient scale : Nat) :
    (dropZeros coefficient scale).1 * tenPow scale =
      coefficient * tenPow (dropZeros coefficient scale).2 := by
  induction scale generalizing coefficient with
  | zero => rfl
  | succ scale others =>
    unfold dropZeros
    split
    · next zero =>
      have tens : coefficient / 10 * 10 = coefficient :=
        Nat.div_mul_cancel (Nat.dvd_of_mod_eq_zero zero)
      rw [tenPow_succ, ← Nat.mul_assoc, others (coefficient / 10), Nat.mul_right_comm, tens]
    · rfl

theorem sameNumber_iff (a b : Decimal) :
    a.sameNumber b = true ↔ a.signed * tenPow b.scale = b.signed * tenPow a.scale := by
  unfold sameNumber compare
  rw [beq_iff_eq, Std.compare_eq_iff_eq]

/-- A number is written as the digits of one that is the same up to its sign, with the sign in
front. Zero has none. -/
theorem toChars_cases (d : Decimal) :
    ∃ text n, IsNumeral text n ∧
      (d.toChars = text ∧ d.sameNumber n = true ∨
        d.toChars = '-' :: text ∧ d.sameNumber n.neg = true) := by
  have numeral := plainDigits_isNumeral d.normalize.coefficient_lt d.normalize.scale_le
  have value : d.normalize.coefficient * tenPow d.scale =
      d.coefficient * tenPow d.normalize.scale := dropZeros_value d.coefficient d.scale
  refine ⟨_, _, numeral, ?_⟩
  unfold toChars
  cases negative : d.negative with
  | false =>
    refine .inl ⟨rfl, (sameNumber_iff _ _).2 ?_⟩
    simp only [signed, negative, Bool.false_eq_true, if_false]
    exact_mod_cast value.symm
  | true =>
    cases zero : d.isZero with
    | true =>
      have none : d.coefficient = 0 := beq_iff_eq.1 zero
      have noneLeft : d.normalize.coefficient = 0 := by
        rw [none, Nat.zero_mul] at value
        exact (Nat.mul_eq_zero.1 value).resolve_right (Nat.ne_of_gt (tenPow_pos _))
      refine .inl ⟨rfl, (sameNumber_iff _ _).2 ?_⟩
      simp [signed, none, noneLeft]
    | false =>
      refine .inr ⟨rfl, (sameNumber_iff _ _).2 ?_⟩
      simp only [signed, neg, negative, Bool.not_false, if_true, Int.neg_mul]
      congr 1
      exact_mod_cast value.symm

/-- A text of digits, points and signs has no blanks to take off and no exponent to look for. -/
theorem numeral?_of_plain {text : List Char}
    (plain : ∀ c ∈ text, c.isDigit = true ∨ c = '.' ∨ c = '-')
    (digit : ∃ c ∈ text, c.isDigit = true) : numeral? (String.ofList text) = ofChars? text := by
  have clear : ∀ c ∈ text, Text.isBlank c = false ∧ isNumeric c = true ∧
      isExponentMark c = false := by
    intro c among
    rcases plain c among with number | rfl | rfl
    · have range := number
      simp only [Char.isDigit, Bool.and_eq_true, decide_eq_true_eq, ge_iff_le,
        UInt32.le_iff_toNat_le] at range
      have low : 48 ≤ c.toNat := range.1
      have high : c.toNat ≤ 57 := range.2
      refine ⟨?_, by simp [isNumeric, number], ?_⟩
      · simp only [Text.isBlank, Bool.or_eq_false_iff, Bool.and_eq_false_iff,
          decide_eq_false_iff_not]
        omega
      · simp only [isExponentMark, Bool.or_eq_false_iff, decide_eq_false_iff_not]
        constructor <;> rintro rfl <;> cases number
    · decide
    · decide
  have trimmed : Text.trimChars text = text :=
    Text.trimChars_of_clear fun c among => (clear c among).1
  have numeric : text.all isNumeric = true := List.all_eq_true.2 fun c among => (clear c among).2.1
  have counted : text.any Char.isDigit = true := List.any_eq_true.2 digit
  have unmarked : text.any isExponentMark = false :=
    List.any_eq_false.2 fun c among => by simp [(clear c among).2.2]
  unfold numeral?
  rw [String.toList_ofList, trimmed]
  simp [numeric, counted, unmarked]

theorem coefficient_ofInt {n : Int} (bounded : n.natAbs < coefficientBound) :
    (ofInt n).coefficient = n.natAbs :=
  Nat.min_eq_left (Nat.le_sub_one_of_lt bounded)

theorem signed_ofInt {n : Int} (bounded : n.natAbs < coefficientBound) : (ofInt n).signed = n := by
  have negative : (ofInt n).negative = decide (n < 0) := rfl
  simp only [signed, negative, coefficient_ofInt bounded, decide_eq_true_eq]
  split <;> omega

/-- Cutting off the fraction goes towards zero. -/
theorem toInt64?_eq (d : Decimal) :
    d.toInt64? = if fitsInt64 (d.signed.tdiv (tenPow d.scale)) then
      some (d.signed.tdiv (tenPow d.scale)) else none := by
  have whole : (if d.negative then -((d.coefficient / tenPow d.scale : Nat) : Int)
      else ((d.coefficient / tenPow d.scale : Nat) : Int)) =
      d.signed.tdiv (tenPow d.scale) := by
    unfold signed
    split
    · rw [Int.neg_tdiv, Int.ofNat_tdiv]
    · rw [Int.ofNat_tdiv]
  unfold toInt64?
  simp only [whole]

/-- A whole number is read back from its digits. -/
theorem numeral?_toString {n : Int} (bounded : n.natAbs < coefficientBound) :
    numeral? (toString n) = some (ofInt n) := by
  have digit : ∀ m, ∃ c ∈ digits m, c.isDigit = true := by
    intro m
    obtain ⟨c, rest, opens, number⟩ := digits_opens m
    exact ⟨c, by simp [opens], number⟩
  have magnitude := coefficient_ofInt bounded
  cases n with
  | ofNat m =>
    have written : toString (Int.ofNat m) = String.ofList (digits m) := rfl
    have small : m < coefficientBound := bounded
    rw [written, numeral?_of_plain (fun c among => .inl (isDigit_of_mem_digits among)) (digit m),
      (digits_isNumeral small).value]
    simpa [ofInt] using magnitude.symm
  | negSucc m =>
    have written : toString (Int.negSucc m) = String.ofList ('-' :: digits (m + 1)) := by
      change "-" ++ String.ofList (digits (m + 1)) = _
      rw [String.ofList_cons]
      rfl
    have small : m + 1 < coefficientBound := bounded
    have plain : ∀ c ∈ '-' :: digits (m + 1), c.isDigit = true ∨ c = '.' ∨ c = '-' := by
      intro c among
      rcases List.mem_cons.1 among with rfl | inside
      · exact .inr (.inr rfl)
      · exact .inl (isDigit_of_mem_digits inside)
    have counted : ∃ c ∈ '-' :: digits (m + 1), c.isDigit = true := by
      obtain ⟨c, among, number⟩ := digit (m + 1)
      exact ⟨c, List.mem_cons_of_mem _ among, number⟩
    have read : ofChars? ('-' :: digits (m + 1)) = ofParts? true (m + 1) 0 := by
      unfold ofChars?
      simp only [splitSign, readWhole?_digits small]
      rfl
    rw [written, numeral?_of_plain plain counted, read, ofParts?, dif_pos ⟨small, Nat.zero_le _⟩]
    simpa [ofInt] using magnitude.symm

end Decimal
end RuleScript
