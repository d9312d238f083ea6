import RuleScript.Proofs.Run.Relation

/-!
Fuel only bounds how long a run may go on. A run that does not run out of fuel goes the same way
with more of it, so a script that ends has one outcome.
-/
namespace RuleScript

variable {σ : Type}

/-- The second run goes as the first one does, unless the first one runs out of fuel. -/
def Run.Extends {α : Type} (short long : Run α) : Prop :=
  ∀ machine, (short machine).1 ≠ .error .outOfFuel → long machine = short machine

namespace Run.Extends

theorem refl {α : Type} (body : Run α) : body.Extends body :=
  fun _ _ => rfl

theorem exhausted {α : Type} (other : Run α) : Run.Extends (throw .outOfFuel) other :=
  fun _ ended => absurd rfl ended

theorem bind {α β : Type} {body body' : Run α} {next next' : α → Run β}
    (bodies : body.Extends body') (nexts : ∀ value, (next value).Extends (next' value)) :
    Run.Extends (body >>= next) (body' >>= next') := by
  intro machine ended
  rcases ran : body machine with ⟨stop | value, after⟩
  · rw [Run.bind_error ran] at ended ⊢
    have goesOn : stop ≠ .outOfFuel := fun out => ended (by rw [out])
    have same : body' machine = body machine := bodies machine (by simp [ran, goesOn])
    exact Run.bind_error (same.trans ran)
  · have same : body' machine = body machine := bodies machine (by simp [ran])
    rw [Run.bind_ok ran] at ended ⊢
    rw [Run.bind_ok (same.trans ran)]
    exact nexts value after ended

theorem observe (traced : Bool) (node : Expr) {body body' : Run Value}
    (bodies : body.Extends body') :
    Run.Extends (Run.observe traced node body) (Run.observe traced node body') := by
  intro machine ended
  unfold Run.observe at ended ⊢
  cases traced with
  | false => exact bodies machine ended
  | true =>
    simp only [if_true] at ended ⊢
    rw [bodies { machine with operands := [] }]
    intro out
    rcases ran : body { machine with operands := [] } with ⟨result, after⟩
    rw [ran] at out ended
    subst out
    exact ended rfl

theorem inFrame (frame : Frame) {body body' : Run Value} (bodies : body.Extends body') :
    Run.Extends (Run.inFrame frame body) (Run.inFrame frame body') := by
  intro machine ended
  unfold Run.inFrame at ended ⊢
  rw [bodies _ ended]

end Run.Extends

theorem Comparison.fuel_kept (context : Context σ) (slack : Nat) :
    (Comparison.twice context.settings context.lookup context.traced context.traced slack
      Run.Extends).Kept where
  value _ := .refl _
  error _ := .refl _
  bind := .bind
  exhausted other _ := .exhausted other
  read _ _ := .refl _
  write _ _ _ := .refl _
  ownValue _ := .refl _
  native _ := .refl _
  note _ := .refl _
  reportSource _ := .refl _
  reportShown _ := .refl _
  observe node _ _ := .observe context.traced node
  inFrame frame _ _ := .inFrame frame
  enter := by
    rintro place _ block rfl
    exact Comparison.twice_finds

namespace Program

variable {context : Context σ} {program : Program} {scope : σ} {names : Namespace}

theorem runWith_add {fuel : Nat}
    (ended : (program.runWith fuel context scope names).result ≠ .error .outOfFuel) (slack : Nat) :
    program.runWith (fuel + slack) context scope names =
      program.runWith fuel context scope names := by
  have extended : Run.Extends (program.steps fuel context scope)
      (program.steps (fuel + slack) context scope) :=
    (Comparison.fuel_kept context slack).program fuel program rfl
  unfold runWith Run.outcome at ended ⊢
  rw [extended ⟨names, [], []⟩ ended]

/-- The script ends with the outcome, given enough fuel. -/
def Ends (context : Context σ) (program : Program) (scope : σ) (names : Namespace)
    (outcome : Outcome) : Prop :=
  outcome.result ≠ .error .outOfFuel ∧ ∃ fuel, program.runWith fuel context scope names = outcome

/-- With any more fuel the script ends the same way. -/
theorem Ends.from {outcome : Outcome} (ends : program.Ends context scope names outcome) :
    ∃ enough, ∀ fuel, enough ≤ fuel → program.runWith fuel context scope names = outcome := by
  obtain ⟨ended, enough, ran⟩ := ends
  refine ⟨enough, fun fuel more => ?_⟩
  obtain ⟨slack, rfl⟩ := Nat.exists_eq_add_of_le more
  rw [runWith_add (by rw [ran]; exact ended), ran]

/-- A script ends in one way only. -/
theorem Ends.unique {outcome other : Outcome} (ends : program.Ends context scope names outcome)
    (endsOther : program.Ends context scope names other) : outcome = other := by
  obtain ⟨enough, ran⟩ := ends.from
  obtain ⟨enough', ran'⟩ := endsOther.from
  rw [← ran _ (Nat.le_max_left enough enough'), ← ran' _ (Nat.le_max_right enough enough')]

end Program
end RuleScript
