import Mathlib.Data.List.TakeWhile
import RuleScript.Settings
import RuleScript.Text.Blank
import RuleScript.Text.Folding

/-!
Lower-casing a second time changes nothing, and it neither makes nor removes blanks. Both facts rest
on one look at the table of capitals: no lower-case form that a run of it gives is a capital of
another run, and neither the capitals nor their forms are blank.
-/
namespace RuleScript.Text

/-- The ranges of the white-space characters. -/
def blankRanges : List (Nat × Nat) :=
  [(0x09, 0x0D), (0x20, 0x20), (0x85, 0x85), (0xA0, 0xA0), (0x1680, 0x1680), (0x2000, 0x200A),
   (0x2028, 0x2029), (0x202F, 0x202F), (0x205F, 0x205F), (0x3000, 0x3000)]

/-- No blank lies between two code points. -/
def freeOfBlanks (first last : Nat) : Bool :=
  blankRanges.all fun range => Nat.blt range.2 first || Nat.blt last range.1

theorem not_isBlank_of_free {first last : Nat} (free : freeOfBlanks first last = true) {c : Char}
    (above : first ≤ c.toNat) (below : c.toNat ≤ last) : isBlank c = false := by
  rw [Bool.eq_false_iff]
  intro blank
  simp only [isBlank, Bool.or_eq_true, Bool.and_eq_true, decide_eq_true_eq] at blank
  simp only [freeOfBlanks, blankRanges, List.all_cons, List.all_nil, Bool.and_eq_true,
    Bool.or_eq_true, Nat.blt_eq] at free
  omega

namespace CapitalRun

/-- The last lower-case form of the run. -/
def lastImage (run : CapitalRun) : Nat :=
  run.image + (run.last - run.first)

/-- The forms of the run and the capitals of the other take turns. -/
def alternates (run other : CapitalRun) : Bool :=
  other.step = 2 && (run.step = 2 || run.first = run.last) && (run.image + other.first) % 2 = 1

/-- No form of the run is a capital of the ascending table. -/
def missesAll (run : CapitalRun) : List CapitalRun → Bool
  | [] => true
  | other :: rest =>
    bif Nat.blt other.last run.image then run.missesAll rest
    else bif Nat.blt run.lastImage other.first then true
    else run.alternates other && run.missesAll rest

/-- The forms of the run are characters past the capitals of ASCII, but not the dotted I. -/
def inRange (run : CapitalRun) : Bool :=
  0x5A < run.image && (run.lastImage < 0x130 || 0x130 < run.image) &&
    (run.lastImage < 0xD800 || (0xDFFF < run.image && run.lastImage < 0x110000))

/-- The forms of the run are lower case already, and neither they nor the capitals are blank. -/
def isSettled (run : CapitalRun) : Bool :=
  run.inRange && run.missesAll capitalRuns && freeOfBlanks run.first run.last &&
    freeOfBlanks run.image run.lastImage

theorem lowerCode_image (run : CapitalRun) {offset : Nat} (bounded : offset ≤ run.last - run.first)
    (stepped : offset % run.step = 0) {table : List CapitalRun}
    (misses : run.missesAll table = true) :
    lowerCode table (run.image + offset) = run.image + offset := by
  induction table with
  | nil => rfl
  | cons other rest others =>
    simp only [missesAll, lastImage, cond_eq_ite, Nat.blt_eq] at misses
    unfold lowerCode
    split at misses
    · rw [if_neg (show ¬ run.image + offset ≤ other.last by omega), others misses]
      split <;> rfl
    split at misses
    · rw [if_pos (by omega)]
    · simp only [alternates, Bool.and_eq_true, Bool.or_eq_true, decide_eq_true_eq] at misses
      obtain ⟨⟨⟨two, even⟩, odd⟩, further⟩ := misses
      have offsetEven : offset % 2 = 0 := by
        rcases even with step | single
        · rwa [step] at stepped
        · omega
      rw [two, others further]
      split
      · rfl
      · rw [if_neg (show ¬ (run.image + offset - other.first) % 2 = 0 by omega)]
        split <;> rfl

end CapitalRun

set_option maxRecDepth 4000 in
theorem capitalRuns_settled : ∀ run ∈ capitalRuns, run.isSettled = true := by
  rw [← List.all_eq_true]
  decide +kernel

/-- A code point that the table changes is a capital of one of its runs. -/
theorem lowerCode_cases (table : List CapitalRun) (code : Nat) :
    lowerCode table code = code ∨ ∃ run ∈ table, run.first ≤ code ∧ code ≤ run.last ∧
      (code - run.first) % run.step = 0 ∧
        lowerCode table code = run.image + (code - run.first) := by
  induction table with
  | nil => exact .inl rfl
  | cons run rest others =>
    have onward : lowerCode rest code = code ∨ ∃ found ∈ run :: rest, found.first ≤ code ∧
        code ≤ found.last ∧ (code - found.first) % found.step = 0 ∧
          lowerCode rest code = found.image + (code - found.first) := by
      rcases others with same | ⟨found, among, capital⟩
      · exact .inl same
      · exact .inr ⟨found, List.mem_cons_of_mem _ among, capital⟩
    unfold lowerCode
    split
    · exact .inl rfl
    split
    · split
      · exact .inr ⟨run, List.mem_cons_self, by omega, by omega, by assumption, rfl⟩
      · exact onward
    · exact onward

/-- The character is in lower case, also at the end of a word. -/
def IsLower (c : Char) : Prop :=
  lowerOf c = [c] ∧ c.toNat ≠ 0x3A3

theorem toNat_ofNat {code : Nat} (valid : code.isValidChar) : (Char.ofNat code).toNat = code := by
  unfold Char.ofNat
  rw [dif_pos valid]
  rfl

theorem lowerOf_ascii {c : Char} (ascii : c.toNat < 0x80) : lowerOf c = [c.toLower] :=
  if_pos ascii

/-- The characters of ASCII, looked at one by one. -/
theorem toLower_ascii : ∀ code < 0x80,
    (Char.ofNat code).toLower.toNat < 0x80 ∧
      (Char.ofNat code).toLower.toLower = (Char.ofNat code).toLower ∧
      isBlank (Char.ofNat code).toLower = isBlank (Char.ofNat code) ∧
      (0x5A < code → (Char.ofNat code).toLower = Char.ofNat code) := by
  decide

theorem lowerCode_sigma : lowerCode capitalRuns 0x3A3 = 0x3C3 := by
  decide +kernel

/-- A character that the table keeps, and that no rule beside the table changes, is lower case. -/
theorem isLower_of_lowerCode {c : Char} (past : 0x5A < c.toNat) (dotless : c.toNat ≠ 0x130)
    (same : lowerCode capitalRuns c.toNat = c.toNat) : IsLower c := by
  constructor
  · by_cases ascii : c.toNat < 0x80
    · have kept := (toLower_ascii c.toNat ascii).2.2.2 past
      rw [Char.ofNat_toNat] at kept
      rw [lowerOf_ascii ascii, kept]
    · unfold lowerOf
      rw [if_neg ascii, if_neg dotless, same, Char.ofNat_toNat]
  · intro sigma
    rw [sigma, lowerCode_sigma] at same
    cases same

/-- What a character becomes is lower case, and blank exactly when the character is. -/
theorem isLower_of_mem_lowerOf {c d : Char} (form : d ∈ lowerOf c) :
    IsLower d ∧ isBlank d = isBlank c := by
  by_cases ascii : c.toNat < 0x80
  · obtain ⟨small, again, blank, -⟩ := toLower_ascii c.toNat ascii
    rw [Char.ofNat_toNat] at small again blank
    rw [lowerOf_ascii ascii, List.mem_singleton] at form
    subst form
    refine ⟨⟨by rw [lowerOf_ascii small, again], by omega⟩, blank⟩
  by_cases dotted : c.toNat = 0x130
  · have capital : c = Char.ofNat 0x130 := by rw [← dotted, Char.ofNat_toNat]
    subst capital
    have forms : d = 'i' ∨ d = Char.ofNat 0x307 := by simpa [lowerOf] using form
    rcases forms with rfl | rfl
    · exact ⟨⟨by decide, by decide⟩, by decide⟩
    · exact ⟨⟨by decide +kernel, by decide⟩, by decide⟩
  unfold lowerOf at form
  rw [if_neg ascii, if_neg dotted, List.mem_singleton] at form
  rcases lowerCode_cases capitalRuns c.toNat with same | ⟨run, among, first, last, stepped, image⟩
  · rw [same, Char.ofNat_toNat] at form
    subst form
    exact ⟨isLower_of_lowerCode (by omega) dotted same, rfl⟩
  · have settled := capitalRuns_settled run among
    simp only [CapitalRun.isSettled, CapitalRun.inRange, Bool.and_eq_true, Bool.or_eq_true,
      decide_eq_true_eq] at settled
    obtain ⟨⟨⟨⟨⟨past, dotless⟩, valid⟩, misses⟩, capitals⟩, images⟩ := settled
    unfold CapitalRun.lastImage at dotless valid images
    have code : d.toNat = run.image + (c.toNat - run.first) := by
      rw [form, image]
      exact toNat_ofNat (by simp only [Nat.isValidChar]; omega)
    have same : lowerCode capitalRuns d.toNat = d.toNat := by
      rw [code]
      exact run.lowerCode_image (by omega) stepped misses
    refine ⟨isLower_of_lowerCode (by omega) (by omega) same, ?_⟩
    rw [not_isBlank_of_free capitals first last,
      not_isBlank_of_free images (c := d) (by omega) (by omega)]

theorem lowerOf_ne_nil (c : Char) : lowerOf c ≠ [] := by
  unfold lowerOf
  split
  · exact List.cons_ne_nil _ _
  · split <;> exact List.cons_ne_nil _ _

/-- The final form of sigma is lower case and no blank. -/
theorem finalSigma_isLower :
    IsLower (Char.ofNat 0x3C2) ∧ isBlank (Char.ofNat 0x3C2) = false := by
  exact ⟨⟨by decide +kernel, by decide⟩, by decide⟩

/-- What lower-casing puts in the place of one character of a text. -/
theorem isLower_of_mem_image {c d : Char} {atEnd : Bool}
    (form : d ∈ if c.toNat = 0x3A3 && atEnd then [Char.ofNat 0x3C2] else lowerOf c) :
    IsLower d ∧ isBlank d = isBlank c := by
  split at form
  · next sigma =>
    rw [List.mem_singleton] at form
    subst form
    simp only [Bool.and_eq_true, decide_eq_true_eq] at sigma
    have capital : c = Char.ofNat 0x3A3 := by rw [← sigma.1, Char.ofNat_toNat]
    rw [capital, finalSigma_isLower.2]
    exact ⟨finalSigma_isLower.1, by decide⟩
  · exact isLower_of_mem_lowerOf form

theorem isLower_of_mem_lowerFrom {before text : List Char} {d : Char}
    (form : d ∈ lowerFrom before text) : IsLower d := by
  induction text generalizing before with
  | nil => cases form
  | cons c rest others =>
    unfold lowerFrom at form
    rcases List.mem_append.1 form with here | later
    · exact (isLower_of_mem_image here).1
    · exact others later

theorem lowerFrom_of_isLower {text : List Char} (settled : ∀ c ∈ text, IsLower c)
    (before : List Char) : lowerFrom before text = text := by
  induction text generalizing before with
  | nil => rfl
  | cons c rest others =>
    obtain ⟨same, notSigma⟩ := settled c List.mem_cons_self
    unfold lowerFrom
    rw [others fun d among => settled d (List.mem_cons_of_mem _ among)]
    simp [notSigma, same]

/-- Lower-casing a text in lower case changes nothing. -/
theorem lower_lower (text : String) : lower (lower text) = lower text := by
  unfold lower
  rw [String.toList_ofList, lowerFrom_of_isLower fun _ => isLower_of_mem_lowerFrom]

/-- A text has nothing but blanks exactly when that holds of its lower-case form. -/
theorem lowerFrom_blank_iff (before text : List Char) :
    (∀ d ∈ lowerFrom before text, isBlank d = true) ↔ ∀ c ∈ text, isBlank c = true := by
  induction text generalizing before with
  | nil => simp [lowerFrom]
  | cons c rest others =>
    unfold lowerFrom
    simp only [List.forall_mem_append, List.forall_mem_cons, others]
    refine and_congr_left fun _ => ⟨fun blank => ?_, fun blank d form => ?_⟩
    · obtain ⟨d, form⟩ : ∃ d, d ∈ if c.toNat = 0x3A3 && endsWord before rest
          then [Char.ofNat 0x3C2] else lowerOf c := by
        split
        · exact ⟨_, List.mem_singleton_self _⟩
        · exact List.exists_mem_of_ne_nil _ (lowerOf_ne_nil c)
      rw [← (isLower_of_mem_image form).2]
      exact blank d form
    · rw [(isLower_of_mem_image form).2]
      exact blank

/-- Nothing is left between the blanks of a text exactly when it has nothing but blanks. -/
theorem trimChars_eq_nil_iff (text : List Char) :
    trimChars text = [] ↔ ∀ c ∈ text, isBlank c = true := by
  unfold trimChars trimEnd trimStart
  rw [List.reverse_eq_nil_iff, List.dropWhile_eq_nil_iff]
  constructor
  · intro rest c among
    rw [← List.takeWhile_append_dropWhile (p := isBlank) (l := text), List.mem_append] at among
    rcases among with front | behind
    · exact List.mem_takeWhile_imp front
    · exact rest c (List.mem_reverse.2 behind)
  · intro blank c among
    exact blank c ((List.dropWhile_sublist _).mem (List.mem_reverse.1 among))

/-- Texts with the same lower-case form are blank alike. -/
theorem trimChars_isEmpty_of_lower_eq {a b : String} (same : lower a = lower b) :
    (trimChars a.toList).isEmpty = (trimChars b.toList).isEmpty := by
  have forms : lowerFrom [] a.toList = lowerFrom [] b.toList := by
    simpa [lower, String.ofList_inj] using same
  rw [Bool.eq_iff_iff, List.isEmpty_iff, List.isEmpty_iff, trimChars_eq_nil_iff,
    trimChars_eq_nil_iff, ← lowerFrom_blank_iff [] a.toList, forms, lowerFrom_blank_iff]

end RuleScript.Text

namespace RuleScript

@[simp] theorem foldName_true (name : String) : foldName true name = name := rfl

@[simp] theorem foldName_false (name : String) : foldName false name = Text.lower name := rfl

/-- A name as it is looked up is looked up as it stands. -/
@[simp] theorem foldName_foldName (caseSensitive : Bool) (name : String) :
    foldName caseSensitive (foldName caseSensitive name) = foldName caseSensitive name := by
  cases caseSensitive with
  | true => rfl
  | false => exact Text.lower_lower name

end RuleScript
