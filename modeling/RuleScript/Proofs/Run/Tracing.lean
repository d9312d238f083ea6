import RuleScript.Proofs.Run.Fuel
import RuleScript.Proofs.Run.Names

/-!
Tracing only adds reports. A traced run goes as the plain run does up to the first failure, which
it reports and the plain run ends with. From there on the plain run has nothing to compare with:
the traced run goes on with null in place of the node that failed.
-/
namespace RuleScript

/-- The error that an event reports. -/
def TraceEvent.error? : TraceEvent → Option EvalError
  | .failure _ _ error => some error
  | _ => none

/-- The error of the first failure in a log, which has the oldest event first. -/
def firstFailure? (log : List TraceEvent) : Option EvalError :=
  log.findSome? TraceEvent.error?

theorem firstFailure?_append (older newer : List TraceEvent) :
    firstFailure? (older ++ newer) = (firstFailure? older).or (firstFailure? newer) :=
  List.findSome?_append

namespace Run

/-- What a traced run that reported some events tells about the plain run: they went alike and
nothing failed yet, or the plain run ended with the first error that was reported. -/
inductive Tracks {α : Type} (plain traced : Except Stop α × Machine)
    (events : List TraceEvent) : Prop
  | alike (result : traced.1 = plain.1) (names : traced.2.names = plain.2.names)
      (quiet : firstFailure? events = none)
  | reported {error : EvalError} (failed : plain.1 = .error (.failed error))
      (first : firstFailure? events = some error)
  | exhausted (out : plain.1 = .error .outOfFuel)

/-- Events before the first failure do not count. -/
theorem Tracks.after {α : Type} {plain traced : Except Stop α × Machine}
    {older events : List TraceEvent} (tracks : Tracks plain traced events)
    (quiet : firstFailure? older = none) : Tracks plain traced (older ++ events) := by
  have same : firstFailure? (older ++ events) = firstFailure? events := by
    rw [firstFailure?_append, quiet, Option.none_or]
  cases tracks with
  | alike result names quiet => exact .alike result names (same.trans quiet)
  | reported failed first => exact .reported failed (same.trans first)
  | exhausted out => exact .exhausted out

/-- From the same names, the traced run adds events to its log and tracks the plain run. -/
def Mirrors {α : Type} (plain traced : Run α) : Prop :=
  ∀ machine machine', machine'.names = machine.names →
    ∃ events, (traced machine').2.log = events.reverse ++ machine'.log ∧
      Tracks (plain machine) (traced machine') events

namespace Mirrors

/-- A step that reports nothing. -/
theorem of_agrees {α : Type} {body : Run α} (agrees : body.Agrees body)
    (logged : ∀ machine, (body machine).2.log = machine.log) : Mirrors body body := by
  intro machine machine' names
  obtain ⟨result, left⟩ := agrees machine machine' names
  exact ⟨[], logged machine', .alike result left rfl⟩

theorem exhausted {α : Type} : Mirrors (throw .outOfFuel : Run α) (throw .outOfFuel) :=
  fun _ _ _ => ⟨[], rfl, .exhausted rfl⟩

/-- Whatever the plain run does, the log of the traced one only grows. -/
theorem grows {α : Type} {plain traced : Run α} (mirrors : Mirrors plain traced)
    (machine : Machine) :
    ∃ events : List TraceEvent, (traced machine).2.log = events.reverse ++ machine.log := by
  obtain ⟨events, logged, _⟩ := mirrors machine machine rfl
  exact ⟨events, logged⟩

/-- A report that is not a failure. -/
theorem report {event : TraceEvent} (quiet : event.error? = none) :
    Mirrors (Run.report false event) (Run.report true event) := by
  intro machine machine' names
  refine ⟨[event], rfl, .alike rfl names ?_⟩
  simp [firstFailure?, quiet]

theorem note (value : Value) : Mirrors (Run.note false value) (Run.note true value) :=
  fun _ _ names => ⟨[], rfl, .alike rfl names rfl⟩

theorem write (caseSensitive : Bool) (target : VarRef) (index : Option (Option Nat))
    (value : Value) :
    Mirrors (Run.write caseSensitive target index value)
      (Run.write caseSensitive target index value) := by
  refine of_agrees (.write caseSensitive target index value) fun machine => ?_
  unfold Run.write
  dsimp only
  split <;> rfl

/-- What comes after a part of the traced run adds to what that part reported. -/
theorem bind_grows {α β : Type} {body : Run α} {next : α → Run β} {plain : α → Run β}
    {machine : Machine} {events : List TraceEvent}
    (logged : (body machine).2.log = events.reverse ++ machine.log)
    (nexts : ∀ value, Mirrors (plain value) (next value)) :
    ∃ more, ((body >>= next) machine).2.log = (events ++ more).reverse ++ machine.log := by
  rcases ran : body machine with ⟨stop | value, after⟩
  · rw [Run.bind_error ran]
    rw [ran] at logged
    exact ⟨[], by rw [List.append_nil]; exact logged⟩
  · rw [Run.bind_ok ran]
    rw [ran] at logged
    obtain ⟨more, loggedMore⟩ := (nexts value).grows after
    exact ⟨more, by rw [loggedMore, logged, List.reverse_append, List.append_assoc]⟩

theorem bind {α β : Type} {body body' : Run α} {next next' : α → Run β}
    (bodies : Mirrors body body') (nexts : ∀ value, Mirrors (next value) (next' value)) :
    Mirrors (body >>= next) (body' >>= next') := by
  intro machine machine' names
  obtain ⟨events, logged, tracks⟩ := bodies machine machine' names
  obtain ⟨more, loggedAll⟩ := bind_grows logged nexts
  cases tracks with
  | reported failed first =>
    refine ⟨events ++ more, loggedAll, .reported (Run.bind_stop failed) ?_⟩
    rw [firstFailure?_append, first, Option.some_or]
  | exhausted out => exact ⟨events ++ more, loggedAll, .exhausted (Run.bind_stop out)⟩
  | alike result left quiet =>
    rcases ran : body machine with ⟨stop | value, after⟩ <;>
      rcases ran' : body' machine' with ⟨stop' | value', after'⟩ <;>
      rw [ran, ran'] at result <;> cases result
    · rw [Run.bind_error ran, Run.bind_error ran']
      rw [ran'] at logged left
      rw [ran] at left
      exact ⟨events, logged, .alike rfl left quiet⟩
    · rw [Run.bind_ok ran, Run.bind_ok ran']
      rw [ran'] at logged left
      rw [ran] at left
      obtain ⟨rest, loggedRest, tracks⟩ := nexts value after after' left
      refine ⟨events ++ rest, ?_, tracks.after quiet⟩
      rw [loggedRest, logged, List.reverse_append, List.append_assoc]

/-- The report on a node stands behind all that was reported inside it. -/
theorem observe (node : Expr) {body body' : Run Value} (bodies : Mirrors body body') :
    Mirrors (Run.observe false node body) (Run.observe true node body') := by
  intro machine machine' names
  obtain ⟨events, logged, tracks⟩ := bodies machine { machine' with operands := [] } names
  unfold Run.observe
  simp only [if_true, Bool.false_eq_true, if_false]
  rcases ran' : body' { machine' with operands := [] } with ⟨(error | _) | value, after⟩ <;>
    rw [ran'] at logged tracks <;> dsimp only at logged
  · refine ⟨events ++ [.failure node after.operands.reverse error], by simp [logged], ?_⟩
    cases tracks with
    | alike result names quiet =>
      refine .reported result.symm ?_
      rw [firstFailure?_append, quiet]
      rfl
    | reported failed first =>
      refine .reported failed ?_
      rw [firstFailure?_append, first, Option.some_or]
    | exhausted out => exact .exhausted out
  · exact ⟨events, logged, tracks⟩
  · refine ⟨events ++ [.result node after.operands.reverse value], by simp [logged], ?_⟩
    cases tracks with
    | alike result names quiet =>
      refine .alike result names ?_
      rw [firstFailure?_append, quiet]
      rfl
    | reported failed first =>
      refine .reported failed ?_
      rw [firstFailure?_append, first, Option.some_or]
    | exhausted out => exact .exhausted out

theorem inFrame (frame : Frame) {body body' : Run Value} (bodies : Mirrors body body') :
    Mirrors (Run.inFrame frame body) (Run.inFrame frame body') := by
  intro machine machine' names
  obtain ⟨events, logged, tracks⟩ := bodies { machine with names := .frame frame machine.names }
    { machine' with names := .frame frame machine'.names } (by rw [names])
  refine ⟨events, logged, ?_⟩
  unfold Run.inFrame
  cases tracks with
  | alike result left quiet => exact .alike result (congrArg Namespace.outer left) quiet
  | reported failed first => exact .reported failed first
  | exhausted out => exact .exhausted out

end Mirrors
end Run

/-- The run does not end with an error. -/
def Run.Survives {α : Type} (body : Run α) : Prop :=
  ∀ machine error, (body machine).1 ≠ .error (.failed error)

namespace Run.Survives

theorem value {α : Type} (value : α) : Run.Survives (pure value) :=
  nofun

theorem exhausted {α : Type} : Run.Survives (throw .outOfFuel : Run α) :=
  nofun

theorem bind {α β : Type} {body : Run α} {next : α → Run β} (first : body.Survives)
    (rest : ∀ value, (next value).Survives) : Run.Survives (body >>= next) := by
  intro machine error failed
  rcases ran : body machine with ⟨stop | value, after⟩
  · rw [Run.bind_error ran] at failed
    cases failed
    exact first machine error (by rw [ran])
  · rw [Run.bind_ok ran] at failed
    exact rest value after error failed

theorem observe (node : Expr) (body : Run Value) : Run.Survives (Run.observe true node body) := by
  intro machine error failed
  unfold Run.observe at failed
  simp only [if_true] at failed
  split at failed <;> cases failed

end Run.Survives

namespace Machine

variable {σ : Type} {context : Context σ}

end Machine

namespace Program

end Program
end RuleScript
