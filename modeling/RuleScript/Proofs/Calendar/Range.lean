import Mathlib
import RuleScript.Calendar.Iso

/-!
How far the calendar reaches. Every way to get an instant, by counting from 1970 or by reading text,
gives a day that the calendar has and a time within the day (`Instant.Valid`), so the milliseconds
of two instants are never more than a small part of the 64-bit numbers apart.
-/
namespace RuleScript

/-- The calendar has the date. -/
structure Date.Valid (date : Date) : Prop where
  year : -262143 ≤ date.year ∧ date.year ≤ 262142
  month : 1 ≤ date.month ∧ date.month ≤ 12
  day : 1 ≤ date.day ∧ date.day ≤ monthLength date.year date.month

theorem Date.inRange_iff (year : Int) :
    Date.inRange year = true ↔ -262143 ≤ year ∧ year ≤ 262142 := by
  simp [Date.inRange]

theorem isLeapYear_iff (year : Int) :
    isLeapYear year = true ↔ year % 4 = 0 ∧ (year % 100 ≠ 0 ∨ year % 400 = 0) := by
  simp [isLeapYear]

theorem sum_monthLengths (year : Int) :
    (monthLengths year).sum = if isLeapYear year then 366 else 365 := by
  unfold monthLengths
  cases isLeapYear year <;> rfl

theorem monthLength_succ (year : Int) (month : Nat) :
    monthLength year (month + 1) = ((monthLengths year)[month]?).getD 0 := rfl

theorem month_bounds {year : Int} {month : Nat} (positive : 0 < monthLength year month) :
    1 ≤ month ∧ month ≤ 12 := by
  cases month with
  | zero => cases positive
  | succ month =>
    refine ⟨Nat.le_add_left 1 month, Nat.succ_le_of_lt (Nat.lt_of_not_le fun past => ?_)⟩
    rw [monthLength_succ, List.getElem?_eq_none past] at positive
    cases positive

theorem monthLength_le (year : Int) (month : Nat) : monthLength year month ≤ 31 := by
  cases month with
  | zero => exact Nat.zero_le 31
  | succ month =>
    rw [monthLength_succ]
    cases found : (monthLengths year)[month]? with
    | none => decide
    | some length =>
      have among := List.mem_of_getElem? found
      simp only [monthLengths, List.mem_cons, List.not_mem_nil, or_false] at among
      rw [Option.getD_some]
      split at among <;> omega

namespace Date

theorem valid_of? {year : Int} {month day : Nat} {date : Date}
    (found : Date.of? year month day = some date) : date.Valid := by
  unfold of? at found
  split at found
  · next there =>
    cases found
    simp only [Bool.and_eq_true, inRange_iff, decide_eq_true_eq] at there
    obtain ⟨⟨years, first⟩, last⟩ := there
    exact ⟨years, month_bounds (Nat.lt_of_lt_of_le first last), first, last⟩
  · cases found

/-- Days that are fewer than a year has fall on a day of one of its months. -/
theorem monthAndDay_spec {lengths : List Nat} {days : Nat} (within : days < lengths.sum)
    (month : Nat) :
    ∃ i, (monthAndDay lengths month days).1 = month + i ∧
      1 ≤ (monthAndDay lengths month days).2 ∧
      (monthAndDay lengths month days).2 ≤ (lengths[i]?).getD 0 := by
  induction lengths generalizing month days with
  | nil => cases within
  | cons length rest others =>
    unfold monthAndDay
    split
    · next here => exact ⟨0, rfl, Nat.le_add_left 1 days, here⟩
    · next past =>
      rw [List.sum_cons] at within
      have later : days - length < rest.sum := by omega
      obtain ⟨i, found, first, last⟩ := others later (month + 1)
      refine ⟨i + 1, ?_, first, last⟩
      rw [found]
      omega

/-- The days left are fewer than the year has, and the year is one of the 400 of its cycle. -/
theorem yearAndDays_spec (days : Int) :
    (yearAndDays days).2 < (monthLengths (yearAndDays days).1).sum ∧
      400 * (days / 146097) < (yearAndDays days).1 ∧
      (yearAndDays days).1 ≤ 400 * (days / 146097) + 400 := by
  -- Only the last year of a leap cycle has a day 365, and it is a leap year: where the cycle is the
  -- last of its century, that day is there in the last century of the 400 years alone.
  have split : (yearAndDays days).2 < 365 ∨ (yearAndDays days).2 = 365 ∧
      (yearAndDays days).1 % 4 = 0 ∧
      ((yearAndDays days).1 % 100 ≠ 0 ∨ (yearAndDays days).1 % 400 = 0) := by
    simp only [yearAndDays]
    omega
  refine ⟨?_, by simp only [yearAndDays]; omega, by simp only [yearAndDays]; omega⟩
  rw [sum_monthLengths]
  rcases split with short | ⟨last, leap⟩
  · split <;> omega
  · rw [if_pos ((isLeapYear_iff _).2 leap), last]
    decide

theorem eq_of_ofDayNumber? {number : Int} {date : Date} (found : ofDayNumber? number = some date) :
    ∃ days, yearAndDays (number + epochDay) = (date.year, days) ∧
      monthAndDay (monthLengths date.year) 1 days = (date.month, date.day) ∧
      inRange date.year = true := by
  rcases onYear : yearAndDays (number + epochDay) with ⟨year, days⟩
  rcases inYear : monthAndDay (monthLengths year) 1 days with ⟨month, day⟩
  simp only [ofDayNumber?, onYear, inYear] at found
  split at found
  · next years =>
    cases found
    exact ⟨days, rfl, inYear, years⟩
  · cases found

theorem valid_ofDayNumber? {number : Int} {date : Date}
    (found : ofDayNumber? number = some date) : date.Valid := by
  obtain ⟨days, onYear, inYear, years⟩ := eq_of_ofDayNumber? found
  have within := (yearAndDays_spec (number + epochDay)).1
  rw [onYear] at within
  obtain ⟨i, month, first, last⟩ := monthAndDay_spec within 1
  rw [inYear] at month first last
  have named : date.month = i + 1 := month.trans (Nat.add_comm 1 i)
  rw [← monthLength_succ, ← named] at last
  exact ⟨(inRange_iff _).1 years, month_bounds (Nat.lt_of_lt_of_le first last), first, last⟩

/-- The days that the calendar numbers. -/
theorem bounds_of_ofDayNumber? {number : Int} {date : Date}
    (found : ofDayNumber? number = some date) : -97000000 ≤ number ∧ number ≤ 97000000 := by
  obtain ⟨days, onYear, -, years⟩ := eq_of_ofDayNumber? found
  have cycle := (yearAndDays_spec (number + epochDay)).2
  rw [onYear] at cycle
  rw [inRange_iff] at years
  unfold epochDay at cycle
  omega

theorem foldl_add_le (lengths : List Nat) (count day : Nat) :
    (lengths.take count).foldl Nat.add day ≤ day + lengths.sum := by
  induction lengths generalizing count day with
  | nil => simp
  | cons length rest others =>
    cases count with
    | zero => simp
    | succ count =>
      rw [List.take_succ_cons, List.foldl_cons, List.sum_cons]
      have later := others count (Nat.add day length)
      have sum : Nat.add day length = day + length := rfl
      omega

theorem Valid.dayNumber {date : Date} (valid : date.Valid) :
    -97000000 ≤ date.dayNumber ∧ date.dayNumber ≤ 97000000 := by
  have years := valid.year
  have day := Nat.le_trans valid.day.2 (monthLength_le date.year date.month)
  have ordinal : date.ordinal ≤ date.day + (monthLengths date.year).sum := foldl_add_le _ _ _
  rw [sum_monthLengths] at ordinal
  have short : date.ordinal ≤ 397 := by
    split at ordinal <;> omega
  unfold Date.dayNumber daysBeforeYear epochDay
  dsimp only
  omega

end Date

/-- The calendar has the day, and the time is within the day or its leap second. -/
structure Instant.Valid (instant : Instant) : Prop where
  date : instant.date.Valid
  second : instant.second < 86400
  nanos : instant.nanos < 2000000000

namespace Instant

theorem Valid.millis {instant : Instant} (valid : instant.Valid) :
    -9000000000000000 ≤ instant.millis ∧ instant.millis ≤ 9000000000000000 := by
  have days := valid.date.dayNumber
  have second := valid.second
  have nanos := valid.nanos
  unfold Instant.millis secondsPerDay
  omega

theorem valid_ofSeconds? {seconds : Int} {nanos : Nat} {instant : Instant}
    (small : nanos < 2000000000) (found : ofSeconds? seconds nanos = some instant) :
    instant.Valid := by
  obtain ⟨date, onDay, same⟩ := Option.bind_eq_some_iff.1 found
  cases same
  refine ⟨Date.valid_ofDayNumber? onDay, ?_, small⟩
  unfold secondsPerDay
  dsimp only
  omega

theorem valid_ofMillis? {millis : Int} {instant : Instant}
    (found : ofMillis? millis = some instant) : instant.Valid :=
  valid_ofSeconds? (by omega) found

theorem bounds_of_ofMillis? {millis : Int} {instant : Instant}
    (found : ofMillis? millis = some instant) :
    -9000000000000000 ≤ millis ∧ millis ≤ 9000000000000000 := by
  obtain ⟨date, onDay, -⟩ := Option.bind_eq_some_iff.1 found
  have days := Date.bounds_of_ofDayNumber? onDay
  unfold secondsPerDay at days
  omega

theorem valid_ofClock? {date : Date} {hour minute second nanos : Nat} {instant : Instant}
    (onDay : date.Valid) (small : nanos < 1000000000)
    (found : ofClock? date hour minute second nanos = some instant) : instant.Valid := by
  unfold ofClock? at found
  split at found
  · next there =>
    simp only [Bool.and_eq_true, decide_eq_true_eq] at there
    split at found <;> cases found <;> exact ⟨onDay, by dsimp only; omega, by dsimp only; omega⟩
  · cases found

end Instant

namespace Iso

theorem number_lt {digits : List Char} (all : ∀ c ∈ digits, c.isDigit = true) :
    number digits < tenPow digits.length := by
  have grown (start : Nat) : digits.foldl (fun n c => n * 10 + (c.toNat - '0'.toNat)) start <
      (start + 1) * tenPow digits.length := by
    induction digits generalizing start with
    | nil => simp
    | cons c rest others =>
      have digit : c.toNat - '0'.toNat ≤ 9 := by
        have range := all c List.mem_cons_self
        simp only [Char.isDigit, Bool.and_eq_true, decide_eq_true_eq] at range
        have upper : c.toNat ≤ 57 := range.2
        have zero : '0'.toNat = 48 := rfl
        omega
      have later := others (fun c among => all c (List.mem_cons_of_mem _ among))
        (start * 10 + (c.toNat - '0'.toNat))
      refine Nat.lt_of_lt_of_le later ?_
      rw [List.length_cons, tenPow_succ, Nat.mul_comm (tenPow rest.length) 10, ← Nat.mul_assoc]
      exact Nat.mul_le_mul_right _ (by omega)
  have whole := grown 0
  rwa [Nat.zero_add, Nat.one_mul] at whole

theorem digits?_spec {least most : Nat} {text digits rest : List Char}
    (found : digits? least most text = some (digits, rest)) :
    (∀ c ∈ digits, c.isDigit = true) ∧ digits.length ≤ most := by
  simp only [digits?] at found
  split at found
  · cases found
  · cases found
    refine ⟨fun c among => ?_, List.length_take_le _ _⟩
    exact List.all_eq_true.1 List.all_takeWhile c (List.mem_of_mem_take among)

theorem optionalFraction?_lt {text rest : List Char} {nanos : Nat}
    (found : optionalFraction? text = some (nanos, rest)) : nanos < 1000000000 := by
  unfold optionalFraction? at found
  split at found
  · obtain ⟨⟨digits, behind⟩, read, same⟩ := Option.bind_eq_some_iff.1 found
    cases same
    obtain ⟨all, short⟩ := digits?_spec read
    calc number digits * tenPow (9 - digits.length)
        < tenPow digits.length * tenPow (9 - digits.length) :=
          Nat.mul_lt_mul_of_pos_right (number_lt all) (tenPow_pos _)
      _ = tenPow 9 := by
          rw [tenPow, tenPow, tenPow]
          exact (Nat.pow_add 10 _ _).symm.trans (by rw [Nat.add_sub_cancel' short])
  · cases found
    decide

/-- What holds of all that the rest of a reader gives holds of all that the reader gives. -/
theorem of_bind {α β : Type} {first : Option α} {next : α → Option β} {P : β → Prop}
    (rest : ∀ read, first = some read → ∀ result, next read = some result → P result)
    (result : β) (found : (first >>= next) = some result) : P result := by
  obtain ⟨read, began, ended⟩ := Option.bind_eq_some_iff.1 found
  exact rest read began result ended

theorem of_ite {α : Type} {condition : Prop} [Decidable condition] {reader : Option α}
    {P : α → Prop} (rest : ∀ result, reader = some result → P result) (result : α)
    (found : (if condition then reader else none) = some result) : P result := by
  split at found
  · exact rest result found
  · cases found

theorem valid_strict? {text : List Char} :
    ∀ instant, strict? text = some instant → instant.Valid := by
  refine of_bind fun ⟨year, _⟩ _ => of_bind fun _ _ => of_bind fun ⟨month, _⟩ _ =>
    of_bind fun _ _ => of_bind fun ⟨day, _⟩ _ => of_bind fun _ _ => of_bind fun ⟨hour, _⟩ _ =>
    of_bind fun _ _ => of_bind fun ⟨minute, _⟩ _ => of_bind fun _ _ =>
    of_bind fun ⟨second, _⟩ _ => of_bind fun ⟨nanos, _⟩ fraction => of_bind fun ⟨offset, _⟩ _ =>
    of_ite (of_bind fun date onDay => of_bind fun shown clock instant moved => ?_)
  have valid := Instant.valid_ofClock? (Date.valid_of? onDay) (optionalFraction?_lt fraction) clock
  exact Instant.valid_ofSeconds? valid.nanos moved

theorem valid_lenientDate? {text rest : List Char} {date : Date}
    (found : lenientDate? text = some (date, rest)) : date.Valid := by
  have all : ∀ read, lenientDate? text = some read → read.1.Valid := by
    refine of_bind fun ⟨year, _⟩ _ => of_bind fun _ _ => of_bind fun ⟨month, _⟩ _ =>
      of_bind fun _ _ => of_bind fun ⟨day, _⟩ _ => of_bind fun date onDay read same => ?_
    cases same
    exact Date.valid_of? onDay
  exact all _ found

theorem valid_withSeconds? {letter : Bool} {text : List Char} :
    ∀ instant, withSeconds? letter text = some instant → instant.Valid := by
  refine of_bind fun ⟨date, _⟩ onDay => of_bind fun _ _ => of_bind fun ⟨⟨hour, minute⟩, _⟩ _ =>
    of_bind fun _ _ => of_bind fun ⟨second, _⟩ _ => of_bind fun ⟨nanos, _⟩ fraction =>
    of_ite fun instant clock => ?_
  exact Instant.valid_ofClock? (valid_lenientDate? onDay) (optionalFraction?_lt fraction) clock

theorem valid_withMinutes? {letter : Bool} {text : List Char} :
    ∀ instant, withMinutes? letter text = some instant → instant.Valid := by
  refine of_bind fun ⟨date, _⟩ onDay => of_bind fun _ _ => of_bind fun ⟨⟨hour, minute⟩, _⟩ _ =>
    of_ite fun instant clock => ?_
  exact Instant.valid_ofClock? (valid_lenientDate? onDay) (by decide) clock

theorem valid_dateOnly? {text : List Char} :
    ∀ instant, dateOnly? text = some instant → instant.Valid := by
  refine of_bind fun ⟨date, _⟩ onDay => of_ite fun instant same => ?_
  cases same
  exact ⟨valid_lenientDate? onDay, Nat.zero_lt_succ _, Nat.zero_lt_succ _⟩

end Iso

theorem Instant.valid_ofIso? {text : String} {instant : Instant}
    (found : Instant.ofIso? text = some instant) : instant.Valid := by
  simp only [ofIso?, Option.orElse_eq_orElse, Option.orElse_eq_or, Option.or_eq_some_iff] at found
  rcases found with found | ⟨-, found | ⟨-, found | ⟨-, found | ⟨-, found | ⟨-, found⟩⟩⟩⟩⟩
  · exact Iso.valid_strict? instant found
  · exact Iso.valid_withSeconds? instant found
  · exact Iso.valid_withSeconds? instant found
  · exact Iso.valid_withMinutes? instant found
  · exact Iso.valid_withMinutes? instant found
  · exact Iso.valid_dateOnly? instant found

end RuleScript
