/-!
Steps that open and close levels of a stack. A level that was opened is worked on, with levels over
it or without, and closed again: then the stack is as it was before.
-/
namespace RuleScript

variable {σ α : Type}

/-- Steps in which each level that is opened is closed again, and no other is. -/
inductive Balanced (push pop : α) : List α → Prop
  | nil : Balanced push pop []
  | here {step : α} {rest : List α} (opens : step ≠ push) (closes : step ≠ pop)
      (others : Balanced push pop rest) : Balanced push pop (step :: rest)
  | nest {inner rest : List α} (inside : Balanced push pop inner)
      (others : Balanced push pop rest) : Balanced push pop (push :: (inner ++ pop :: rest))

/-- What the steps do to the levels, where `Over outer state` says that the state is one level over
another state. -/
structure Nests (after : σ → α → σ) (push pop : α) (Over : σ → σ → Prop) : Prop where
  opens {outer state : σ} : Over outer state → Over state (after state push)
  closes {outer state : σ} : Over outer state → after state pop = outer
  keeps {outer state : σ} {step : α} :
    step ≠ push → step ≠ pop → Over outer state → Over outer (after state step)

namespace Nests

variable {after : σ → α → σ} {push pop : α} {Over : σ → σ → Prop}

/-- Balanced steps stay on the level that they start on. -/
theorem foldl_over (nests : Nests after push pop Over) {steps : List α}
    (balanced : Balanced push pop steps) {outer state : σ} (above : Over outer state) :
    Over outer (steps.foldl after state) := by
  induction balanced generalizing outer state with
  | nil => exact above
  | here opens closes _ others => exact others (nests.keeps opens closes above)
  | nest _ _ inside others =>
    have opened := inside (nests.opens above)
    rw [List.foldl_cons, List.foldl_append, List.foldl_cons, nests.closes opened]
    exact others above

/-- A level that was opened and closed again leaves no trace. -/
theorem foldl_restores (nests : Nests after push pop Over) {inner : List α}
    (balanced : Balanced push pop inner) {state : σ} (opened : Over state (after state push)) :
    (push :: (inner ++ [pop])).foldl after state = state := by
  have worked := nests.foldl_over balanced opened
  rw [List.foldl_cons, List.foldl_append, List.foldl_cons, List.foldl_nil, nests.closes worked]

end Nests
end RuleScript
