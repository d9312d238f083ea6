import Mathlib
import RuleScript.Proofs.Calendar.Counting

/-!
The lengths of months. Months are counted over all years, so that moving by some months is an
addition, and the length of a month is given by its name and the leap rule alone. What the calendar
computes, the days between the first of the month and the first of the next, is that length
(`Month.dayNumber_next`); it is there as long as both of these days are.
-/
namespace RuleScript

theorem Date.of?_eq_some_iff {year : ℤ} {month day : ℕ} {date : Date} :
    Date.of? year month day = some date ↔ date = ⟨year, month, day⟩ ∧ date.Valid := by
  constructor
  · intro found
    have valid := Date.valid_of? found
    unfold Date.of? at found
    split at found
    · exact ⟨(Option.some.inj found).symm, valid⟩
    · cases found
  · rintro ⟨rfl, valid⟩
    have there : (Date.inRange year && decide (1 ≤ day) && decide (day ≤ monthLength year month)) =
        true := by
      simpa [Date.inRange_iff, and_assoc] using And.intro valid.year valid.day
    rw [Date.of?, if_pos there]

/-- A month of a year. -/
structure Month where
  year : ℤ
  number : ℕ
  bounds : 1 ≤ number ∧ number ≤ 12

namespace Month

/-- The number of the month, counted from the first month of the year 0. -/
def index (month : Month) : ℤ :=
  12 * month.year + month.number - 1

theorem index_div (month : Month) : month.index / 12 = month.year := by
  have bounds := month.bounds
  unfold index
  omega

theorem index_mod (month : Month) : (month.index % 12).toNat + 1 = month.number := by
  have bounds := month.bounds
  unfold index
  omega

theorem exists_index (index : ℤ) : ∃ month : Month, month.index = index := by
  refine ⟨⟨index / 12, (index % 12).toNat + 1, by omega⟩, ?_⟩
  unfold Month.index
  dsimp only
  omega

/-- The days of the month: thirty in April, June, September and November, and thirty-one in the
others. February has twenty-eight, and one more in every fourth year, where of the years that end a
century only every fourth counts. -/
def length (month : Month) : ℕ :=
  if month.number = 2 then
    if 4 ∣ month.year ∧ (100 ∣ month.year → 400 ∣ month.year) then 29 else 28
  else if month.number ∈ [4, 6, 9, 11] then 30 else 31

theorem monthLength_eq_length (month : Month) :
    monthLength month.year month.number = month.length := by
  obtain ⟨year, number, low, high⟩ := month
  have leap : isLeapYear year = true ↔ 4 ∣ year ∧ (100 ∣ year → 400 ∣ year) := by
    rw [isLeapYear_iff]
    omega
  interval_cases number
  · rfl
  · simp only [monthLength, monthLengths, length, leap]
    rfl
  all_goals rfl

/-- The first day of the month. -/
def first (month : Month) : Date :=
  ⟨month.year, month.number, 1⟩

theorem ordinal_first (month : Month) :
    month.first.ordinal = ((monthLengths month.year).take (month.number - 1)).sum + 1 :=
  month.first.ordinal_eq

/-- With the month over, the days of all its months have passed. -/
theorem sum_take_number (month : Month) :
    ((monthLengths month.year).take month.number).sum =
      ((monthLengths month.year).take (month.number - 1)).sum + month.length := by
  obtain ⟨before, named⟩ := Nat.exists_eq_add_of_le' month.bounds.1
  have passed := Date.sum_take_succ (monthLengths month.year) before
  rw [← month.monthLength_eq_length, named, monthLength_succ]
  exact passed

theorem next_cases {month next : Month} (follows : next.index = month.index + 1) :
    (month.number = 12 ∧ next.year = month.year + 1 ∧ next.number = 1) ∨
      (month.number < 12 ∧ next.year = month.year ∧ next.number = month.number + 1) := by
  have bounds := month.bounds
  have bounds' := next.bounds
  unfold index at follows
  omega

/-- From the first day of a month to the first day of the next it is the length of the month. -/
theorem dayNumber_next {month next : Month} (follows : next.index = month.index + 1) :
    next.first.dayNumber - month.first.dayNumber = month.length := by
  have passed := month.sum_take_number
  have start := month.ordinal_first
  have start' := next.ordinal_first
  have years : month.first.year = month.year ∧ next.first.year = next.year := ⟨rfl, rfl⟩
  unfold Date.dayNumber
  rw [years.1, years.2]
  rcases next_cases follows with ⟨december, year, january⟩ | ⟨-, year, later⟩
  · -- The twelve months make up the year.
    have whole : (monthLengths month.year).take 12 = monthLengths month.year := rfl
    have turn := Date.daysBeforeYear_succ month.year
    rw [december, whole] at passed
    rw [january, Nat.sub_self, List.take_zero, List.sum_nil] at start'
    rw [december] at start
    rw [year]
    omega
  · rw [year, later, Nat.add_sub_cancel] at start'
    rw [year]
    omega

/-- What is computed for a month: the days between two firsts, when the index stays within 64 bits
and the calendar has both days. -/
theorem daysInMonth?_eq {month later next : Month} {offset : ℤ}
    (shifted : later.index = month.index + offset) (follows : next.index = later.index + 1) :
    daysInMonth? month.year month.number offset =
      if fitsInt64 later.index then do
        let first ← Date.of? later.year later.number 1
        let second ← Date.of? next.year next.number 1
        pure (second.dayNumber - first.dayNumber)
      else none := by
  have total : month.year * 12 + month.number - 1 + offset = later.index := by
    rw [shifted]
    unfold index
    omega
  unfold daysInMonth?
  rw [total]
  dsimp only
  rw [index_div, index_mod]
  rcases next_cases follows with ⟨december, year, january⟩ | ⟨earlier, year, number⟩
  · rw [year, january, december]
    simp only [if_true]
  · have inside : later.number ≠ 12 := Nat.ne_of_lt earlier
    rw [year, number]
    simp only [inside, if_false]

theorem daysInMonth?_eq_some_iff {month later next : Month} {offset days : ℤ}
    (shifted : later.index = month.index + offset) (follows : next.index = later.index + 1) :
    daysInMonth? month.year month.number offset = some days ↔
      fitsInt64 later.index = true ∧ later.first.Valid ∧ next.first.Valid ∧
        days = later.length := by
  rw [daysInMonth?_eq shifted follows, ← dayNumber_next follows]
  constructor
  · intro found
    split at found
    · next fits =>
      obtain ⟨first, there, found⟩ := Option.bind_eq_some_iff.1 found
      obtain ⟨second, there', same⟩ := Option.bind_eq_some_iff.1 found
      obtain ⟨rfl, valid⟩ := Date.of?_eq_some_iff.1 there
      obtain ⟨rfl, valid'⟩ := Date.of?_eq_some_iff.1 there'
      exact ⟨fits, valid, valid', (Option.some.inj same).symm⟩
    · cases found
  · rintro ⟨fits, valid, valid', rfl⟩
    have there := Date.of?_eq_some_iff.2 ⟨rfl, valid⟩
    have there' := Date.of?_eq_some_iff.2 ⟨rfl, valid'⟩
    rw [if_pos fits, there, there']
    rfl

end Month

/-- The days of the month that lies some months later, or earlier, than a given one are those that
the month has by its name and the leap rule. They are given exactly where the index of the month
fits in 64 bits and the calendar has its first day and the first day of the next month. Moving to
that month and asking from there is asking with both moves together. -/
theorem daysInMonth?_exact (month : Month) (offset : ℤ) :
    ∃ later next : Month,
      later.index = month.index + offset ∧ next.index = later.index + 1 ∧
      (∀ days, daysInMonth? month.year month.number offset = some days ↔
        fitsInt64 (month.index + offset) = true ∧ later.first.Valid ∧ next.first.Valid ∧
          days = later.length) ∧
      ∀ further, daysInMonth? later.year later.number further =
        daysInMonth? month.year month.number (offset + further) := by
  obtain ⟨later, shifted⟩ := Month.exists_index (month.index + offset)
  obtain ⟨next, follows⟩ := Month.exists_index (later.index + 1)
  refine ⟨later, next, shifted, follows, fun days => ?_, fun further => ?_⟩
  · rw [← shifted]
    exact Month.daysInMonth?_eq_some_iff shifted follows
  · obtain ⟨last, moved⟩ := Month.exists_index (later.index + further)
    obtain ⟨after, follows⟩ := Month.exists_index (last.index + 1)
    have together : last.index = month.index + (offset + further) := by
      rw [moved, shifted, Int.add_assoc]
    rw [Month.daysInMonth?_eq moved follows, Month.daysInMonth?_eq together follows]

/-- The last month of the calendar has no next one, so it has no length. -/
example : daysInMonth? 262142 11 0 = some 30 ∧ daysInMonth? 262142 12 0 = none := by decide

end RuleScript
