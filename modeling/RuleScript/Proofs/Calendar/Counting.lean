import Mathlib
import RuleScript.Proofs.Calendar.Range

/-!
Counting days. A year begins where the one before it ends, and so does a month inside a year, so a
day is given by its year, month and day or by its number, and each is found from the other: the
dates of the calendar are numbered without gaps (`Date.dayNumber_ofDayNumber?`,
`Date.Valid.ofDayNumber?_dayNumber`).
-/
namespace RuleScript.Date

section Years

/-- A year begins where the one before it ends. -/
theorem daysBeforeYear_succ (year : ℤ) :
    daysBeforeYear (year + 1) = daysBeforeYear year + (monthLengths year).sum := by
  have leap := isLeapYear_iff year
  rw [sum_monthLengths]
  unfold daysBeforeYear
  split
  · next long =>
    have rule := leap.1 long
    push_cast
    omega
  · next short =>
    have rule := mt leap.2 short
    push_cast
    omega

theorem daysBeforeYear_of_lt {year later : ℤ} (before : year < later) :
    daysBeforeYear year + (monthLengths year).sum ≤ daysBeforeYear later := by
  rw [← daysBeforeYear_succ]
  unfold daysBeforeYear
  dsimp only
  omega

/-- A count of days falls into one year only. -/
theorem year_unique {year other : ℤ} {days days' : ℕ} (within : days < (monthLengths year).sum)
    (within' : days' < (monthLengths other).sum)
    (same : daysBeforeYear year + days = daysBeforeYear other + days') :
    year = other ∧ days = days' := by
  have equal : year = other := by
    rcases lt_trichotomy year other with before | equal | after
    · have late := daysBeforeYear_of_lt before
      omega
    · exact equal
    · have late := daysBeforeYear_of_lt after
      omega
  subst equal
  exact ⟨rfl, by omega⟩

/-- Years are counted in four centuries, which begin behind a leap century, in centuries, which begin
behind a leap cycle that may be short, and in leap cycles. -/
theorem daysBeforeYear_parts (cycle : ℤ) {century leapCycle year : ℕ} (centuries : century ≤ 3)
    (leapCycles : leapCycle ≤ 24) (years : year ≤ 3) :
    daysBeforeYear (400 * cycle + 100 * century + 4 * leapCycle + year + 1) =
      146097 * cycle + 36524 * century + 1461 * leapCycle + 365 * year := by
  unfold daysBeforeYear
  dsimp only
  omega

/-- The year and the days left are those of the count. -/
theorem yearAndDays_count (days : ℤ) :
    daysBeforeYear (yearAndDays days).1 + (yearAndDays days).2 = days := by
  unfold yearAndDays
  dsimp only
  have cycle : (days % 146097).toNat < 146097 := by omega
  have whole : 146097 * (days / 146097) + (days % 146097).toNat = days := by omega
  generalize days / 146097 = past at *
  generalize (days % 146097).toNat = inCycle at *
  -- The last century of a cycle, and the last year of a leap cycle, have one day more.
  have centuries : min 3 (inCycle / 36524) * 36524 ≤ inCycle := by omega
  have inCentury : inCycle - min 3 (inCycle / 36524) * 36524 ≤ 36524 := by omega
  have centuryBound : min 3 (inCycle / 36524) ≤ 3 := Nat.min_le_left _ _
  generalize min 3 (inCycle / 36524) = century at *
  have leapCycles : (inCycle - century * 36524) / 1461 ≤ 24 := by omega
  have years : min 3 ((inCycle - century * 36524) % 1461 / 365) ≤ 3 := Nat.min_le_left _ _
  have parts := daysBeforeYear_parts past centuryBound leapCycles years
  push_cast at parts ⊢
  rw [parts]
  omega

end Years

section Months

theorem foldl_add (lengths : List ℕ) (day : ℕ) :
    lengths.foldl Nat.add day = lengths.sum + day := by
  induction lengths generalizing day with
  | nil => simp
  | cons length rest others =>
    rw [List.foldl_cons, others, List.sum_cons]
    change rest.sum + (day + length) = _
    omega

theorem ordinal_eq (date : Date) :
    date.ordinal = ((monthLengths date.year).take (date.month - 1)).sum + date.day :=
  foldl_add _ _

theorem sum_take_succ (lengths : List ℕ) (i : ℕ) :
    (lengths.take (i + 1)).sum = (lengths.take i).sum + (lengths[i]?).getD 0 := by
  rw [List.take_add_one, List.sum_append]
  cases lengths[i]? <;> simp

theorem sum_take_le (lengths : List ℕ) (i : ℕ) : (lengths.take i).sum ≤ lengths.sum := by
  have parts := congrArg List.sum (List.take_append_drop i lengths)
  rw [List.sum_append] at parts
  omega

/-- The days of the months passed and the day of the month are those of the count. -/
theorem monthAndDay_count {lengths : List ℕ} {days : ℕ} (within : days < lengths.sum)
    (month : ℕ) :
    ∃ i, (monthAndDay lengths month days).1 = month + i ∧
      (lengths.take i).sum + (monthAndDay lengths month days).2 = days + 1 := by
  induction lengths generalizing month days with
  | nil => cases within
  | cons length rest others =>
    unfold monthAndDay
    split
    · exact ⟨0, rfl, by simp⟩
    · next past =>
      rw [List.sum_cons] at within
      obtain ⟨i, found, count⟩ := others (by omega : days - length < rest.sum) (month + 1)
      refine ⟨i + 1, by omega, ?_⟩
      rw [List.take_succ_cons, List.sum_cons]
      omega

/-- A day of a month is found from its count. -/
theorem monthAndDay_sum_take {lengths : List ℕ} {i day : ℕ} (first : 1 ≤ day)
    (last : day ≤ (lengths[i]?).getD 0) (month : ℕ) :
    monthAndDay lengths month ((lengths.take i).sum + day - 1) = (month + i, day) := by
  induction lengths generalizing i month with
  | nil =>
    simp only [List.getElem?_nil, Option.getD_none] at last
    omega
  | cons length rest others =>
    cases i with
    | zero =>
      have short : day ≤ length := last
      rw [monthAndDay, if_pos (by simp; omega)]
      simp [Nat.sub_add_cancel first]
    | succ i =>
      have later := others last (month + 1)
      rw [List.take_succ_cons, List.sum_cons, monthAndDay, if_neg (by omega)]
      have left : length + (rest.take i).sum + day - 1 - length = (rest.take i).sum + day - 1 := by
        omega
      rw [left, later, Nat.add_right_comm, Nat.add_assoc]

end Months

/-- The date that is found for a number has that number. -/
theorem dayNumber_ofDayNumber? {number : ℤ} {date : Date}
    (found : ofDayNumber? number = some date) : date.dayNumber = number := by
  obtain ⟨days, onYear, inYear, -⟩ := eq_of_ofDayNumber? found
  have count := yearAndDays_count (number + epochDay)
  have within := (yearAndDays_spec (number + epochDay)).1
  rw [onYear] at count within
  obtain ⟨i, month, day⟩ := monthAndDay_count within 1
  rw [inYear] at month day
  have passed : date.month - 1 = i := by
    dsimp only at month
    omega
  unfold dayNumber
  rw [ordinal_eq, passed]
  dsimp only at count day
  omega

theorem Valid.day_le {date : Date} (valid : date.Valid) :
    date.day ≤ ((monthLengths date.year)[date.month - 1]?).getD 0 := by
  have last := valid.day.2
  obtain ⟨month, named⟩ := Nat.exists_eq_add_of_le' valid.month.1
  rw [named, monthLength_succ] at last
  rwa [named]

theorem Valid.ordinal {date : Date} (valid : date.Valid) :
    1 ≤ date.ordinal ∧ date.ordinal ≤ (monthLengths date.year).sum := by
  have passed := sum_take_succ (monthLengths date.year) (date.month - 1)
  have year := sum_take_le (monthLengths date.year) (date.month - 1 + 1)
  have first := valid.day.1
  have last := valid.day_le
  rw [ordinal_eq]
  omega

/-- Every date of the calendar is found from its number. -/
theorem Valid.ofDayNumber?_dayNumber {date : Date} (valid : date.Valid) :
    ofDayNumber? date.dayNumber = some date := by
  have ordinal := valid.ordinal
  have within : date.ordinal - 1 < (monthLengths date.year).sum := by omega
  have count := yearAndDays_count (date.dayNumber + epochDay)
  have spec := (yearAndDays_spec (date.dayNumber + epochDay)).1
  have same : daysBeforeYear (yearAndDays (date.dayNumber + epochDay)).1 +
      (yearAndDays (date.dayNumber + epochDay)).2 =
      daysBeforeYear date.year + (date.ordinal - 1 : ℕ) := by
    rw [count, Date.dayNumber]
    omega
  obtain ⟨year, days⟩ := year_unique spec within same
  have found : monthAndDay (monthLengths date.year) 1 (date.ordinal - 1) =
      (date.month, date.day) := by
    rw [ordinal_eq, monthAndDay_sum_take valid.day.1 valid.day_le, Nat.add_sub_cancel' valid.month.1]
  simp only [ofDayNumber?, year, days, found]
  rw [if_pos ((inRange_iff _).2 valid.year)]

/-- The last day of the calendar. -/
def lastDay : Date :=
  ⟨262142, 12, 31⟩

theorem lastDay_valid : lastDay.Valid :=
  ⟨by decide, by decide, by decide⟩

/-- Every other day of the calendar has a next one. -/
theorem Valid.exists_next {date : Date} (valid : date.Valid) (more : date ≠ lastDay) :
    ∃ next, ofDayNumber? (date.dayNumber + 1) = some next := by
  have ordinal := valid.ordinal
  have count := yearAndDays_count (date.dayNumber + 1 + epochDay)
  have within := (yearAndDays_spec (date.dayNumber + 1 + epochDay)).1
  have number : date.dayNumber = daysBeforeYear date.year - epochDay + date.ordinal - 1 := rfl
  have succ := daysBeforeYear_succ date.year
  have years := valid.year
  have inside : inRange (yearAndDays (date.dayNumber + 1 + epochDay)).1 = true := by
    rw [inRange_iff]
    generalize yearAndDays (date.dayNumber + 1 + epochDay) = found at *
    by_contra outside
    rcases lt_or_ge found.1 date.year with before | behind
    · have early := daysBeforeYear_of_lt before
      omega
    · -- The next day opens the first year that is not in the calendar, so this one is the last.
      have opening : daysBeforeYear 262143 ≤ daysBeforeYear found.1 := by
        unfold daysBeforeYear
        dsimp only
        omega
      have closing : daysBeforeYear (date.year + 1) ≤ daysBeforeYear 262143 := by
        unfold daysBeforeYear
        dsimp only
        omega
      have closes : lastDay.dayNumber + 1 + epochDay = daysBeforeYear 262143 := by decide
      have same : date.dayNumber = lastDay.dayNumber := by omega
      have both := valid.ofDayNumber?_dayNumber
      rw [same, lastDay_valid.ofDayNumber?_dayNumber] at both
      exact more (Option.some.inj both).symm
  simp only [ofDayNumber?, inside, if_true]
  exact ⟨_, rfl⟩

end RuleScript.Date
