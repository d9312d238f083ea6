import RuleScript.Proofs.Calendar.Range
import RuleScript.Run.Builtins
import RuleScript.Run.Operators

/-!
The errors that operators and built-in functions give. Besides the errors that a script or its data
can cause, there are errors for states that no run is in. An operator gives one of these only when
it should not have been applied to both operands, and a built-in function only when it is applied to
a number of arguments that it does not take, or at a time that the calendar does not have.
-/
namespace RuleScript

/-- A script or its data can cause the error. -/
def EvalError.isOrdinary : EvalError → Bool
  | .internal _ => false
  | .invalidSignature _ => false
  | _ => true

/-- An error, if there is one, is ordinary. -/
def Proper {α : Type} (result : Except EvalError α) : Prop :=
  ∀ error, result = .error error → error.isOrdinary = true

namespace Proper

variable {α β : Type}

theorem ok (value : α) : Proper (.ok value : Except EvalError α) := by
  intro error failed
  cases failed

theorem error {error : EvalError} (ordinary : error.isOrdinary = true) :
    Proper (.error error : Except EvalError α) := by
  intro other failed
  cases failed
  exact ordinary

theorem bind {result : Except EvalError α} {next : α → Except EvalError β} (first : Proper result)
    (rest : ∀ value, Proper (next value)) : Proper (result >>= next) := by
  cases result with
  | ok value => exact rest value
  | error error => exact .error (first error rfl)

theorem map {result : Except EvalError α} (first : Proper result) (f : α → β) :
    Proper (result.map f) := by
  cases result with
  | ok value => exact .ok (f value)
  | error error => exact .error (first error rfl)

end Proper

namespace Operator

theorem proper_fitting (op : Operator) (result : Option Decimal) : Proper (op.fitting result) := by
  cases result with
  | some n => exact .ok n
  | none => exact .error rfl

theorem proper_numericOperand (op : Operator) (value : Value) :
    Proper (op.numericOperand value) := by
  unfold numericOperand
  split
  · exact .ok _
  · exact .error rfl

theorem proper_sum (settings : Settings) (left right : Value) :
    Proper (sum settings left right) := by
  unfold sum
  split
  · exact .ok _
  · exact .ok _
  · exact .ok _
  · exact .ok _
  · exact .ok _
  · exact .error rfl
  · exact .error rfl
  · exact (proper_fitting _ _).map _
  -- A text is added as the number that it spells, or else joined.
  · split
    · exact (proper_fitting _ _).map _
    · exact .ok _
  · split
    · exact (proper_fitting _ _).map _
    · exact .ok _
  · exact .ok _

theorem proper_difference (left right : Value) : Proper (difference left right) := by
  unfold difference
  split
  · exact .ok _
  · exact .ok _
  · exact .error rfl
  · exact .ok _
  · exact .ok _
  · exact .error rfl
  · exact .error rfl
  · exact (proper_numericOperand _ _).bind fun _ => (proper_numericOperand _ _).bind fun _ =>
      (proper_fitting _ _).map _

theorem proper_wholePower (base : Decimal) (exponent : Int) :
    Proper (wholePower base exponent) := by
  unfold wholePower
  split
  · exact proper_fitting _ _
  split
  · exact .error rfl
  split
  · exact proper_fitting _ _
  · exact .error rfl

theorem proper_raise (settings : Settings) (base exponent : Decimal) :
    Proper (raise settings base exponent) := by
  unfold raise
  split
  · split
    · exact (proper_wholePower _ _).map _
    · exact .ok _
  · exact .ok _

theorem proper_scaled (op : Operator) (settings : Settings) (a b : Decimal) :
    Proper (op.scaled settings a b) := by
  unfold scaled
  split
  · exact (proper_fitting _ _).map _
  · split
    · exact .error rfl
    · exact (proper_fitting _ _).map _
  · exact proper_raise settings a b

theorem proper_arithmetic (op : Operator) (settings : Settings) (left right : Value) :
    Proper (op.arithmetic settings left right) := by
  unfold arithmetic
  split
  · exact .error rfl
  · exact .error rfl
  · exact .ok _
  · exact .ok _
  · exact .error rfl
  · exact .error rfl
  · exact (proper_numericOperand _ _).bind fun _ => (proper_numericOperand _ _).bind fun _ =>
      op.proper_scaled settings _ _

theorem proper_bitwise (op : Operator) (left right : Value) : Proper (op.bitwise left right) := by
  unfold bitwise
  split
  · exact .ok _
  · split
    · exact .ok _
    · exact .error rfl

/-- Only the logical operators are not meant to be applied to both operands. -/
theorem proper_apply_iff (op : Operator) (settings : Settings) (left right : Value) :
    Proper (op.apply settings left right) ↔ op ≠ .and ∧ op ≠ .or := by
  cases op with
  | and =>
    refine ⟨fun proper => ?_, fun other => absurd rfl other.1⟩
    cases proper _ rfl
  | or =>
    refine ⟨fun proper => ?_, fun other => absurd rfl other.2⟩
    cases proper _ rfl
  | add => exact iff_of_true (proper_sum settings left right) (by decide)
  | subtract => exact iff_of_true (proper_difference left right) (by decide)
  | multiply | divide | power =>
    exact iff_of_true (proper_arithmetic _ settings left right) (by decide)
  | bitAnd | bitOr => exact iff_of_true (proper_bitwise _ left right) (by decide)
  | equal | notEqual | less | greater | lessEqual | greaterEqual =>
    exact iff_of_true (.ok _) (by decide)

/-- The result of a logical operator is settled without applying it. -/
theorem proper_combine (op : Operator) (settings : Settings) (first second : Value) :
    Proper (op.combine settings first second) := by
  unfold combine
  split
  · exact .ok _
  · exact .ok _
  · next strict strict' => exact (op.proper_apply_iff settings first second).2 ⟨strict, strict'⟩

end Operator

theorem Dates.apply_of_clock {now : Int} {current : Instant}
    (clock : Instant.ofMillis? now = some current) (function : Builtin) (values : List Value) :
    Dates.apply now function values = Dates.applyAt now current function values := by
  unfold Dates.apply
  -- The time is abstracted, so that nothing computes with the calendar.
  generalize Instant.ofMillis? now = found at clock
  subst clock
  rfl

namespace Builtin

theorem proper_numericArgument (function : Builtin) (value : Value) :
    Proper (function.numericArgument value) := by
  unfold numericArgument
  split
  · exact .ok _
  · split
    · exact .ok _
    · exact .error rfl
  · exact .ok _

theorem proper_exact (function : Builtin) (settings : Settings)
    (compute : Decimal → Option Decimal) (value : Value) :
    Proper (function.exact settings compute value) :=
  (function.proper_numericArgument value).bind fun _ => .ok _

theorem proper_roundTo (settings : Settings) (value : Value) (places : Nat) :
    Proper (roundTo settings value places) := by
  refine (round.proper_numericArgument value).bind fun argument => ?_
  cases argument <;> exact .ok _

theorem proper_digits (value : Value) : Proper (digits value) := by
  unfold digits
  split
  · exact .ok _
  · exact .error rfl

theorem proper_better (function : Builtin) (wanted : Ordering) (current candidate : Value) :
    Proper (function.better wanted current candidate) := by
  unfold better
  split
  · exact .ok _
  · exact .error rfl

theorem proper_best (function : Builtin) (wanted : Ordering) (values : List Value) :
    Proper (function.best wanted values) := by
  have compared (first : Value) (rest : List Value) :
      Proper (rest.foldlM (function.better wanted) first) := by
    induction rest generalizing first with
    | nil => exact .ok first
    | cons second rest others =>
      rw [List.foldlM_cons]
      exact (function.proper_better wanted first second).bind others
  cases values with
  | nil => exact .ok _
  | cons first rest => exact compared first rest

/-- A function that takes one argument is given one. -/
theorem eq_singleton_of_accepts {function : Builtin} (one : function.arity = .exactly 1)
    {values : List Value} (accepted : function.arity.accepts values.length = true) :
    ∃ value, values = [value] := by
  rw [one] at accepted
  exact List.length_eq_one_iff.1 (beq_iff_eq.1 accepted)

theorem proper_round {values : List Value}
    (accepted : round.arity.accepts values.length = true) (settings : Settings) :
    Proper (round.apply settings values) := by
  match values, accepted with
  | [value], _ => exact proper_roundTo settings value 0
  | [value, places], _ => exact (proper_digits places).bind fun _ => proper_roundTo settings value _

/-- A function gives an ordinary error at most where it takes so many arguments and the calendar has
the current time. -/
theorem proper_apply {function : Builtin} {settings : Settings} {values : List Value}
    (clock : (Instant.ofMillis? settings.now).isSome = true)
    (accepted : function.arity.accepts values.length = true) :
    Proper (function.apply settings values) := by
  obtain ⟨current, clock⟩ := Option.isSome_iff_exists.1 clock
  cases function with
  | sin | cos | asin | acos | tan | atan | exp | ln | log | neg | abs | sqrt | floor | ceil =>
    obtain ⟨value, rfl⟩ := eq_singleton_of_accepts rfl accepted
    exact proper_exact _ settings _ value
  | size | isString | isNumeric | isArray | isNull | toString | toNumber | debug =>
    obtain ⟨value, rfl⟩ := eq_singleton_of_accepts rfl accepted
    exact .ok _
  | round => exact proper_round accepted settings
  | min | max => exact proper_best _ _ _
  | toArray => exact .ok _
  | day | month | year | dayOfYear | daysInMonth | now =>
    change Proper (Dates.apply settings.now _ _)
    rw [Dates.apply_of_clock clock]
    exact .ok _
  | iso | daysBeforeNow | hoursBeforeNow =>
    obtain ⟨value, rfl⟩ := eq_singleton_of_accepts rfl accepted
    change Proper (Dates.apply settings.now _ _)
    rw [Dates.apply_of_clock clock]
    exact .ok _

end Builtin

end RuleScript
