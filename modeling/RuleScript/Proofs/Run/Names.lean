import RuleScript.Proofs.Run.Relation

/-!
A run depends on the names alone: neither the log nor the operands noted so far have a part in its
result or in the names that it leaves.
-/
namespace RuleScript

/-- From the same names, both runs have the same result and leave the same names. -/
def Run.Agrees {α : Type} (body body' : Run α) : Prop :=
  ∀ machine machine', machine'.names = machine.names →
    (body' machine').1 = (body machine).1 ∧ (body' machine').2.names = (body machine).2.names

namespace Run.Agrees

theorem value {α : Type} (value : α) : Run.Agrees (pure value) (pure value) :=
  fun _ _ names => ⟨rfl, names⟩

theorem stop {α : Type} (stop : Stop) : Run.Agrees (throw stop : Run α) (throw stop) :=
  fun _ _ names => ⟨rfl, names⟩

theorem read (caseSensitive : Bool) (target : VarRef) (index : Option (Option Nat)) :
    Run.Agrees (Run.read caseSensitive target index) (Run.read caseSensitive target index) := by
  intro machine machine' names
  refine ⟨?_, names⟩
  simp only [Run.read, names]

theorem ownValue (name : String) : Run.Agrees (Run.ownValue name) (Run.ownValue name) := by
  intro machine machine' names
  refine ⟨?_, names⟩
  simp only [Run.ownValue, names]

theorem native (settings : Settings) (body : NativeBody) :
    Run.Agrees (Run.native settings body) (Run.native settings body) := by
  intro machine machine' names
  simp only [Run.native, names, and_self]

theorem write (caseSensitive : Bool) (target : VarRef) (index : Option (Option Nat))
    (value : Value) :
    Run.Agrees (Run.write caseSensitive target index value)
      (Run.write caseSensitive target index value) := by
  intro machine machine' names
  unfold Run.write
  simp only [names]
  split
  · exact ⟨rfl, rfl⟩
  · exact ⟨rfl, names⟩

theorem note (traced : Bool) (value : Value) :
    Run.Agrees (Run.note traced value) (Run.note traced value) := by
  cases traced with
  | false => exact .value ()
  | true => exact fun _ _ names => ⟨rfl, names⟩

theorem report (traced : Bool) (event : TraceEvent) :
    Run.Agrees (Run.report traced event) (Run.report traced event) := by
  cases traced with
  | false => exact .value ()
  | true => exact fun _ _ names => ⟨rfl, names⟩

theorem bind {α β : Type} {body body' : Run α} {next next' : α → Run β}
    (bodies : body.Agrees body') (nexts : ∀ value, (next value).Agrees (next' value)) :
    Run.Agrees (body >>= next) (body' >>= next') := by
  intro machine machine' names
  obtain ⟨result, left⟩ := bodies machine machine' names
  rcases ran : body machine with ⟨stop | value, after⟩ <;>
    rcases ran' : body' machine' with ⟨stop' | value', after'⟩ <;>
    rw [ran, ran'] at result left <;> cases result
  · rw [Run.bind_error ran, Run.bind_error ran']
    exact ⟨rfl, left⟩
  · rw [Run.bind_ok ran, Run.bind_ok ran']
    exact nexts value after after' left

theorem observe (traced : Bool) (node : Expr) {body body' : Run Value}
    (bodies : body.Agrees body') :
    Run.Agrees (Run.observe traced node body) (Run.observe traced node body') := by
  intro machine machine' names
  unfold Run.observe
  cases traced with
  | false => exact bodies machine machine' names
  | true =>
    obtain ⟨result, left⟩ :=
      bodies { machine with operands := [] } { machine' with operands := [] } names
    simp only [if_true]
    rcases ran : body { machine with operands := [] } with ⟨stop | value, after⟩ <;>
      rcases ran' : body' { machine' with operands := [] } with ⟨stop' | value', after'⟩ <;>
      rw [ran, ran'] at result left <;> cases result
    · cases stop with
      | failed error => exact ⟨rfl, left⟩
      | outOfFuel => exact ⟨rfl, left⟩
    · exact ⟨rfl, left⟩

theorem inFrame (frame : Frame) {body body' : Run Value} (bodies : body.Agrees body') :
    Run.Agrees (Run.inFrame frame body) (Run.inFrame frame body') := by
  intro machine machine' names
  obtain ⟨result, left⟩ := bodies { machine with names := .frame frame machine.names }
    { machine' with names := .frame frame machine'.names } (by rw [names])
  exact ⟨result, congrArg Namespace.outer left⟩

end Run.Agrees

theorem Comparison.names_kept {σ : Type} (context : Context σ) :
    (Comparison.twice context.settings context.lookup context.traced context.traced 0
      Run.Agrees).Kept where
  value := .value
  error error := .stop (.failed error)
  bind := .bind
  exhausted other same := by
    rw [same rfl]
    exact .stop .outOfFuel
  read := .read context.settings.caseSensitive
  write := .write context.settings.caseSensitive
  ownValue := .ownValue
  native := .native context.settings
  note := .note context.traced
  reportSource _ := .report context.traced _
  reportShown _ := .report context.traced _
  observe node _ _ := .observe context.traced node
  inFrame frame _ _ := .inFrame frame
  enter := by
    rintro place _ block rfl
    exact Comparison.twice_finds

end RuleScript
