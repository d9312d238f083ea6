import Mathlib
import RuleScript.Proofs.Calendar.Counting
import RuleScript.Proofs.Json.Reload
import RuleScript.Proofs.Run.Errors

/-!
A date as text and as milliseconds. A text is read into a day and a time of day, and the functions
on dates look at these; its milliseconds are counted from 1970 and taken apart again. Both ways lead
to the same day, except for a leap second that ends its day: the count has no room for it, and it
falls on the start of the next day.
-/
namespace RuleScript

namespace Instant

/-- The instant lies in a leap second at the very end of its day. -/
def EndsDay (instant : Instant) : Prop :=
  instant.second = 86399 ∧ 1000000000 ≤ instant.nanos

theorem map_date_ofMillis? (millis : ℤ) :
    (ofMillis? millis).map date = Date.ofDayNumber? (millis / 86400000) := by
  have days : millis / 1000 / secondsPerDay = millis / 86400000 := by
    unfold secondsPerDay
    omega
  rw [ofMillis?, ofSeconds?, days]
  cases Date.ofDayNumber? (millis / 86400000) <;> rfl

/-- The instant that is found for a number of milliseconds has that number. -/
theorem millis_of_ofMillis? {millis : ℤ} {instant : Instant}
    (found : ofMillis? millis = some instant) : instant.millis = millis := by
  obtain ⟨date, onDay, same⟩ := Option.bind_eq_some_iff.1 found
  cases same
  have day := Date.dayNumber_ofDayNumber? onDay
  unfold Instant.millis
  dsimp only
  rw [day]
  unfold secondsPerDay
  omega

section Day

variable {instant : Instant} (valid : instant.Valid)
include valid

theorem Valid.millis_div_of_inside (inside : ¬instant.EndsDay) :
    instant.millis / 86400000 = instant.date.dayNumber := by
  have second := valid.second
  have nanos := valid.nanos
  unfold EndsDay at inside
  unfold Instant.millis secondsPerDay
  omega

theorem Valid.millis_div_of_endsDay (ends : instant.EndsDay) :
    instant.millis / 86400000 = instant.date.dayNumber + 1 := by
  have nanos := valid.nanos
  unfold EndsDay at ends
  unfold Instant.millis secondsPerDay
  omega

/-- Away from the end of its day an instant has the date of its milliseconds. -/
theorem Valid.date_of_inside (inside : ¬instant.EndsDay) :
    (ofMillis? instant.millis).map Instant.date = some instant.date := by
  rw [map_date_ofMillis?, valid.millis_div_of_inside inside, valid.date.ofDayNumber?_dayNumber]

theorem Valid.date_of_endsDay (ends : instant.EndsDay) :
    (ofMillis? instant.millis).map Instant.date =
      Date.ofDayNumber? (instant.date.dayNumber + 1) := by
  rw [map_date_ofMillis?, valid.millis_div_of_endsDay ends]

/-- The milliseconds of an instant are those of an instant, unless they are past the calendar. -/
theorem Valid.exists_ofMillis? (more : ¬(instant.EndsDay ∧ instant.date = Date.lastDay)) :
    ∃ found, ofMillis? instant.millis = some found := by
  have date : ∃ date, (ofMillis? instant.millis).map Instant.date = some date := by
    by_cases ends : instant.EndsDay
    · rw [valid.date_of_endsDay ends]
      exact valid.date.exists_next fun last => more ⟨ends, last⟩
    · exact ⟨_, valid.date_of_inside ends⟩
  obtain ⟨date, found⟩ := date
  obtain ⟨found, there, -⟩ := Option.map_eq_some_iff.1 found
  exact ⟨found, there⟩

end Day

end Instant

namespace Dates

/-- The functions that tell a part of a date. -/
def parts : List (Builtin × (Date → ℤ)) :=
  [(.day, fun date => date.day), (.month, fun date => date.month), (.year, fun date => date.year),
    (.dayOfYear, fun date => date.ordinal)]

/-- The functions that tell the time since a date, with their units in milliseconds. -/
def units : List (Builtin × ℤ) :=
  [(.daysBeforeNow, millisPerDay), (.hoursBeforeNow, millisPerHour)]

/-- What a function answers for the milliseconds of a text. -/
def onMillis (settings : Settings) (function : Builtin) (text : String) :
    Except EvalError Value := do
  function.apply settings [← Builtin.iso.apply settings [.text text]]

theorem instant?_ofInt {millis : ℤ}
    (bounds : -9000000000000000 ≤ millis ∧ millis ≤ 9000000000000000) :
    instant? (.ofInt millis) = Instant.ofMillis? millis := by
  have small : millis.natAbs < Decimal.coefficientBound := by
    unfold Decimal.coefficientBound
    omega
  have fits : fitsInt64 millis = true := by
    simp only [fitsInt64, Bool.and_eq_true, decide_eq_true_eq]
    omega
  have signed : (Decimal.ofInt millis).signed = millis * tenPow (Decimal.ofInt millis).scale := by
    rw [Decimal.signed_ofInt small]
    exact (Int.mul_one millis).symm
  have whole := (Decimal.toInt64?_of_whole fits signed).2
  change (Decimal.ofInt millis).toInt64?.bind Instant.ofMillis? = _
  rw [whole, Option.bind_some]

section Clock

variable {settings : Settings}

theorem apply_unclocked (wrong : Instant.ofMillis? settings.now = none) (function : Builtin)
    (values : List Value) :
    Dates.apply settings.now function values =
      .error (.internal ("clock time " ++ toString settings.now ++ " is out of range")) := by
  unfold Dates.apply
  rw [wrong]

/-- Without a time of the calendar both ways end in the same error. -/
theorem onMillis_unclocked (wrong : Instant.ofMillis? settings.now = none) {function : Builtin}
    (dated : ∀ values, function.apply settings values = Dates.apply settings.now function values)
    (text : String) :
    function.apply settings [.text text] = onMillis settings function text := by
  have reading : Builtin.iso.apply settings [.text text] = Dates.apply settings.now .iso _ := rfl
  rw [onMillis, reading, dated, apply_unclocked wrong, apply_unclocked wrong]
  rfl

theorem apply_part {entry : Builtin × (Date → ℤ)} (among : entry ∈ parts) (values : List Value) :
    entry.1.apply settings values = Dates.apply settings.now entry.1 values := by
  simp only [parts, List.mem_cons, List.not_mem_nil, or_false] at among
  rcases among with rfl | rfl | rfl | rfl <;> rfl

theorem apply_unit {entry : Builtin × ℤ} (among : entry ∈ units) (values : List Value) :
    entry.1.apply settings values = Dates.apply settings.now entry.1 values := by
  simp only [units, List.mem_cons, List.not_mem_nil, or_false] at among
  rcases among with rfl | rfl <;> rfl

variable {current : Instant} (clock : Instant.ofMillis? settings.now = some current)
include clock

/-- A part of a date is taken from the date of the instant. -/
theorem part_eq {entry : Builtin × (Date → ℤ)} (among : entry ∈ parts) (value : Value) :
    entry.1.apply settings [value] =
      .ok (numberOrNull (((instant? value).map Instant.date).map entry.2)) := by
  rw [apply_part among, apply_of_clock clock, Option.map_map]
  simp only [parts, List.mem_cons, List.not_mem_nil, or_false] at among
  rcases among with rfl | rfl | rfl | rfl <;> rfl

/-- The time since a date is taken from the milliseconds of the instant. -/
theorem unit_eq {entry : Builtin × ℤ} (among : entry ∈ units) (value : Value) :
    entry.1.apply settings [value] =
      .ok (numberOrNull (((instant? value).map Instant.millis).map
        fun millis => (settings.now - millis).tdiv entry.2)) := by
  rw [apply_unit among, apply_of_clock clock, Option.map_map]
  simp only [units, List.mem_cons, List.not_mem_nil, or_false] at among
  rcases among with rfl | rfl <;> rfl

theorem onMillis_eq {text : String} {instant : Instant}
    (accepted : Instant.ofIso? text = some instant) (function : Builtin) :
    onMillis settings function text = function.apply settings [.ofInt instant.millis] := by
  have reading : Builtin.iso.apply settings [.text text] = .ok (.ofInt instant.millis) := by
    change Dates.apply settings.now .iso [.text text] = _
    rw [apply_of_clock clock, applyAt, iso, accepted]
    rfl
  rw [onMillis, reading]
  rfl

end Clock

section Forms

variable {settings : Settings} {text : String} {instant : Instant}
  (accepted : Instant.ofIso? text = some instant)
include accepted

theorem instant?_millis :
    instant? (.text text) = some instant ∧
      instant? (.ofInt instant.millis) = Instant.ofMillis? instant.millis :=
  ⟨accepted, instant?_ofInt (Instant.valid_ofIso? accepted).millis⟩

/-- The parts of a date do not depend on its form, away from the end of a day. -/
theorem parts_agree (inside : ¬instant.EndsDay) {entry : Builtin × (Date → ℤ)}
    (among : entry ∈ parts) :
    entry.1.apply settings [.text text] = onMillis settings entry.1 text := by
  cases clock : Instant.ofMillis? settings.now with
  | none => exact onMillis_unclocked clock (apply_part among) text
  | some current =>
    obtain ⟨fromText, fromMillis⟩ := instant?_millis accepted
    rw [onMillis_eq clock accepted, part_eq clock among, part_eq clock among, fromText, fromMillis,
      (Instant.valid_ofIso? accepted).date_of_inside inside]
    rfl

/-- The time since a date does not depend on its form, as long as the milliseconds are in the
calendar. -/
theorem units_agree (more : ¬(instant.EndsDay ∧ instant.date = Date.lastDay))
    {entry : Builtin × ℤ} (among : entry ∈ units) :
    entry.1.apply settings [.text text] = onMillis settings entry.1 text := by
  cases clock : Instant.ofMillis? settings.now with
  | none => exact onMillis_unclocked clock (apply_unit among) text
  | some current =>
    obtain ⟨fromText, fromMillis⟩ := instant?_millis accepted
    obtain ⟨found, counted⟩ := (Instant.valid_ofIso? accepted).exists_ofMillis? more
    have same := Instant.millis_of_ofMillis? counted
    rw [onMillis_eq clock accepted, unit_eq clock among, unit_eq clock among, fromText, fromMillis,
      counted]
    simp only [Option.map_some, same]

/-- The milliseconds of a leap second that ends its day are on the next day. -/
theorem parts_of_endsDay {current : Instant}
    (clock : Instant.ofMillis? settings.now = some current) (ends : instant.EndsDay)
    {entry : Builtin × (Date → ℤ)} (among : entry ∈ parts) :
    onMillis settings entry.1 text =
      .ok (numberOrNull ((Date.ofDayNumber? (instant.date.dayNumber + 1)).map entry.2)) := by
  rw [onMillis_eq clock accepted, part_eq clock among, (instant?_millis accepted).2,
    (Instant.valid_ofIso? accepted).date_of_endsDay ends]

theorem units_of_lastDay {current : Instant}
    (clock : Instant.ofMillis? settings.now = some current) (ends : instant.EndsDay)
    (last : instant.date = Date.lastDay) {entry : Builtin × ℤ} (among : entry ∈ units) :
    onMillis settings entry.1 text = .ok .null := by
  have past : Instant.ofMillis? instant.millis = none := by
    have beyond : Date.ofDayNumber? (Date.lastDay.dayNumber + 1) = none := by decide
    have date := (Instant.valid_ofIso? accepted).date_of_endsDay ends
    rw [last, beyond] at date
    exact Option.map_eq_none_iff.1 date
  rw [onMillis_eq clock accepted, unit_eq clock among, (instant?_millis accepted).2, past]
  rfl

end Forms

/-- A date as text and the milliseconds that it is read as are interchangeable, whatever the clock
shows. Day, month, year and day of the year are those of the text unless it is a leap second that
ends a day, whose milliseconds belong to the next day. The days and hours that have passed are those
of the text also there; only the leap second that ends the last day of the calendar has milliseconds
that are no date. On a clock outside the calendar all of these functions fail, on the text as on its
milliseconds. -/
theorem forms_interchangeable (settings : Settings) {text : String} {instant : Instant}
    (accepted : Instant.ofIso? text = some instant) :
    (¬instant.EndsDay → ∀ entry ∈ parts,
      entry.1.apply settings [.text text] = onMillis settings entry.1 text) ∧
    (¬(instant.EndsDay ∧ instant.date = Date.lastDay) → ∀ entry ∈ units,
      entry.1.apply settings [.text text] = onMillis settings entry.1 text) ∧
    (instant.EndsDay → (Instant.ofMillis? settings.now).isSome = true →
      (∀ entry ∈ parts, onMillis settings entry.1 text =
        .ok (numberOrNull ((Date.ofDayNumber? (instant.date.dayNumber + 1)).map entry.2))) ∧
      (instant.date = Date.lastDay → ∀ entry ∈ units,
        onMillis settings entry.1 text = .ok .null)) ∧
    (Instant.ofMillis? settings.now = none → ∀ function ∈ parts.map Prod.fst ++ units.map Prod.fst,
      ∃ error, function.apply settings [.text text] = .error error ∧
        onMillis settings function text = .error error) := by
  refine ⟨fun inside entry among => parts_agree accepted inside among,
    fun more entry among => units_agree accepted more among, fun ends clocked => ?_,
    fun wrong function among => ?_⟩
  · obtain ⟨current, clock⟩ := Option.isSome_iff_exists.1 clocked
    exact ⟨fun entry among => parts_of_endsDay accepted clock ends among,
      fun last entry among => units_of_lastDay accepted clock ends last among⟩
  · have dated : ∀ values,
        function.apply settings values = Dates.apply settings.now function values := by
      rcases List.mem_append.1 among with part | unit
      · obtain ⟨entry, listed, rfl⟩ := List.mem_map.1 part
        exact apply_part listed
      · obtain ⟨entry, listed, rfl⟩ := List.mem_map.1 unit
        exact apply_unit listed
    have failed := (dated [.text text]).trans (apply_unclocked wrong function _)
    exact ⟨_, failed, (onMillis_unclocked wrong dated text).symm.trans failed⟩

/-- A leap second within a day before 1970, shown by a clock behind universal time and with parts
of a millisecond. -/
theorem forms_interchangeable_inner_leap_second :
    let text := "1969-12-31T22:59:60.9999999-00:30"
    let instant : Instant := ⟨⟨1969, 12, 31⟩, 84599, 1999999900⟩
    Instant.ofIso? text = some instant ∧ ¬instant.EndsDay ∧
      (∀ entry ∈ parts, entry.1.apply (.standard 0) [.text text] =
        onMillis (.standard 0) entry.1 text) ∧
      ∀ entry ∈ units, entry.1.apply (.standard 0) [.text text] =
        onMillis (.standard 0) entry.1 text := by
  intro text instant
  have accepted : Instant.ofIso? text = some instant := by decide +kernel
  have inside : ¬instant.EndsDay := by
    rintro ⟨second, -⟩
    cases second
  obtain ⟨dates, times, -⟩ := forms_interchangeable (.standard 0) accepted
  exact ⟨accepted, inside, dates inside, times fun both => inside both.1⟩

/-- The leap second that ended the year 2016: as text it is on the last day of December, and its
milliseconds are on the first day of January. -/
theorem leap_second_moves_to_next_day :
    let text := "2016-12-31T23:59:60Z"
    (Instant.ofIso? text).isSome = true ∧
      Builtin.day.apply (.standard 0) [.text text] = .ok (.ofInt 31) ∧
      onMillis (.standard 0) .day text = .ok (.ofInt 1) ∧
      Builtin.day.apply (.standard 0) [.text text] ≠ onMillis (.standard 0) .day text := by
  intro text
  have accepted : Instant.ofIso? text = some ⟨⟨2016, 12, 31⟩, 86399, 1000000000⟩ := by
    decide +kernel
  have clock : Instant.ofMillis? (Settings.standard 0).now = some ⟨⟨1970, 1, 1⟩, 0, 0⟩ := by
    decide
  have next : Date.ofDayNumber? (Date.dayNumber ⟨2016, 12, 31⟩ + 1) = some ⟨2017, 1, 1⟩ := by
    decide
  have shown : Builtin.day.apply (.standard 0) [.text text] = .ok (.ofInt 31) := by
    rw [part_eq clock List.mem_cons_self, (instant?_millis accepted).1]
    rfl
  have moved : onMillis (.standard 0) .day text = .ok (.ofInt 1) := by
    rw [parts_of_endsDay accepted clock ⟨rfl, Nat.le_refl _⟩ List.mem_cons_self, next]
    rfl
  refine ⟨by rw [accepted]; rfl, shown, moved, ?_⟩
  rw [shown, moved]
  intro same
  have numbers : Decimal.ofInt 31 = Decimal.ofInt 1 := Value.number.inj (Except.ok.inj same)
  revert numbers
  decide

end Dates
end RuleScript
