import RuleScript.Proofs.Script.Steps

/-!
Steps only bound how long the parser may go on. A reading that does not run out of steps goes the
same way with more of them, so any count from `steps` on gives the same outcome.
-/
namespace RuleScript.Parser

/-- The second reading ends as the first one does, unless the first one runs out of steps. -/
def Extends {α : Type} (short long : Except Halt α) : Prop :=
  Finishes short → long = short

namespace Extends

variable {α β : Type}

theorem refl (outcome : Except Halt α) : Extends outcome outcome :=
  fun _ => rfl

theorem exhausted (other : Except Halt α) : Extends (.error .exhausted) other :=
  fun finishes => absurd rfl finishes

theorem bind {short long : Except Halt α} {next next' : α → Except Halt β}
    (first : Extends short long) (nexts : ∀ value, Extends (next value) (next' value)) :
    Extends (short >>= next) (long >>= next') := by
  cases short with
  | ok value =>
    rw [first (finishes_ok value)]
    exact nexts value
  | error halt =>
    cases halt with
    | exhausted => exact exhausted _
    | failed error =>
      rw [first (finishes_failed error)]
      exact refl _

end Extends

/-- One step more changes nothing in the functions that read expressions. -/
structure ExpressionsStable (caseSensitive : Bool) (steps : Nat) : Prop where
  expression : ∀ stream, Extends (expression caseSensitive steps stream)
    (expression caseSensitive (steps + 1) stream)
  tier : ∀ level stream, Extends (tier caseSensitive steps level stream)
    (tier caseSensitive (steps + 1) level stream)
  operand : ∀ level stream, Extends (operand caseSensitive steps level stream)
    (operand caseSensitive (steps + 1) level stream)
  chain : ∀ level left stream, Extends (chain caseSensitive steps level left stream)
    (chain caseSensitive (steps + 1) level left stream)
  unary : ∀ stream, Extends (unary caseSensitive steps stream)
    (unary caseSensitive (steps + 1) stream)
  substitution : ∀ stream, Extends (substitution caseSensitive steps stream)
    (substitution caseSensitive (steps + 1) stream)
  primary : ∀ stream, Extends (primary caseSensitive steps stream)
    (primary caseSensitive (steps + 1) stream)
  index : ∀ stream, Extends (index caseSensitive steps stream)
    (index caseSensitive (steps + 1) stream)
  arguments : ∀ stream, Extends (arguments caseSensitive steps stream)
    (arguments caseSensitive (steps + 1) stream)
  argumentsFrom : ∀ stream, Extends (argumentsFrom caseSensitive steps stream)
    (argumentsFrom caseSensitive (steps + 1) stream)

section Expressions

variable {caseSensitive : Bool} {steps : Nat}

theorem expressionsStable_zero : ExpressionsStable caseSensitive 0 := by
  constructor <;> intros <;> exact .exhausted _

theorem expression_stable (ih : ExpressionsStable caseSensitive steps) (stream : TokenStream) :
    Extends (expression caseSensitive (steps + 1) stream)
      (expression caseSensitive (steps + 2) stream) := by
  unfold expression
  refine (ih.tier .logical stream).bind ?_
  rintro ⟨left, rest⟩
  dsimp only
  split
  · split
    · exact (ih.expression _).bind fun _ => .refl _
    · exact .refl _
    · exact .refl _
  · exact .refl _

theorem tier_stable (ih : ExpressionsStable caseSensitive steps) (level : Tier)
    (stream : TokenStream) : Extends (tier caseSensitive (steps + 1) level stream)
      (tier caseSensitive (steps + 2) level stream) := by
  unfold tier
  exact (ih.operand level stream).bind fun read => ih.chain level read.1 read.2

theorem operand_stable (ih : ExpressionsStable caseSensitive steps) (level : Tier)
    (stream : TokenStream) : Extends (operand caseSensitive (steps + 1) level stream)
      (operand caseSensitive (steps + 2) level stream) := by
  unfold operand
  split
  · exact ih.tier _ stream
  · exact ih.unary stream

theorem chain_stable (ih : ExpressionsStable caseSensitive steps) (level : Tier) (left : Expr)
    (stream : TokenStream) : Extends (chain caseSensitive (steps + 1) level left stream)
      (chain caseSensitive (steps + 2) level left stream) := by
  unfold chain
  split
  · split
    · next op _ =>
      exact (ih.operand level _).bind fun read => ih.chain level (.binary op left read.1) read.2
    · exact .refl _
  · exact .refl _

theorem unary_stable (ih : ExpressionsStable caseSensitive steps) (stream : TokenStream) :
    Extends (unary caseSensitive (steps + 1) stream) (unary caseSensitive (steps + 2) stream) := by
  unfold unary
  split
  · exact (ih.unary _).bind fun _ => .refl _
  · exact ih.substitution _

theorem substitution_stable (ih : ExpressionsStable caseSensitive steps) (stream : TokenStream) :
    Extends (substitution caseSensitive (steps + 1) stream)
      (substitution caseSensitive (steps + 2) stream) := by
  unfold substitution
  refine (ih.primary stream).bind ?_
  rintro ⟨first, rest⟩
  dsimp only
  split
  · exact (ih.substitution _).bind fun _ => .refl _
  · exact .refl _

theorem primary_stable (ih : ExpressionsStable caseSensitive steps) (stream : TokenStream) :
    Extends (primary caseSensitive (steps + 1) stream)
      (primary caseSensitive (steps + 2) stream) := by
  unfold primary
  split
  · exact .refl _
  · exact .refl _
  · split
    · exact .refl _
    · exact .refl _
    · exact .refl _
    · exact .refl _
    · exact .refl _
    · exact (ih.expression _).bind fun _ => .refl _
    · split
      · exact (ih.index _).bind fun _ => .refl _
      · exact .refl _
    · split
      · exact .refl _
      · split
        · exact (ih.arguments _).bind fun _ => .refl _
        · exact (ih.index _).bind fun _ => .refl _
    · exact .refl _

theorem index_stable (ih : ExpressionsStable caseSensitive steps) (stream : TokenStream) :
    Extends (index caseSensitive (steps + 1) stream) (index caseSensitive (steps + 2) stream) := by
  unfold index
  split
  · exact (ih.expression _).bind fun _ => .refl _
  · exact .refl _

theorem arguments_stable (ih : ExpressionsStable caseSensitive steps) (stream : TokenStream) :
    Extends (arguments caseSensitive (steps + 1) stream)
      (arguments caseSensitive (steps + 2) stream) := by
  unfold arguments
  split
  · exact .refl _
  · exact ih.argumentsFrom _

theorem argumentsFrom_stable (ih : ExpressionsStable caseSensitive steps) (stream : TokenStream) :
    Extends (argumentsFrom caseSensitive (steps + 1) stream)
      (argumentsFrom caseSensitive (steps + 2) stream) := by
  unfold argumentsFrom
  refine (ih.expression stream).bind ?_
  rintro ⟨arg, rest⟩
  dsimp only
  split
  · exact (ih.argumentsFrom _).bind fun _ => .refl _
  all_goals exact .refl _

theorem expressionsStable (caseSensitive : Bool) (steps : Nat) :
    ExpressionsStable caseSensitive steps := by
  induction steps with
  | zero => exact expressionsStable_zero
  | succ steps ih =>
    exact ⟨expression_stable ih, tier_stable ih, operand_stable ih, chain_stable ih,
      unary_stable ih, substitution_stable ih, primary_stable ih, index_stable ih,
      arguments_stable ih, argumentsFrom_stable ih⟩

end Expressions

theorem condition_stable (caseSensitive : Bool) (steps : Nat) (stream : TokenStream) :
    Extends (condition caseSensitive steps stream)
      (condition caseSensitive (steps + 1) stream) := by
  unfold condition
  refine (Extends.refl _).bind fun rest => ?_
  exact ((expressionsStable caseSensitive steps).expression rest).bind fun _ => .refl _

/-- One step more changes nothing in the functions that read statements. -/
structure StatementsStable (caseSensitive : Bool) (steps : Nat) : Prop where
  block : ∀ allowed inBraces stream, Extends (block caseSensitive allowed inBraces steps stream)
    (block caseSensitive allowed inBraces (steps + 1) stream)
  statement : ∀ stream, Extends (statement caseSensitive steps stream)
    (statement caseSensitive (steps + 1) stream)
  branch : ∀ stream, Extends (branch caseSensitive steps stream)
    (branch caseSensitive (steps + 1) stream)
  braced : ∀ stream, Extends (braced caseSensitive steps stream)
    (braced caseSensitive (steps + 1) stream)
  function : ∀ stream, Extends (function caseSensitive steps stream)
    (function caseSensitive (steps + 1) stream)

section Statements

variable {caseSensitive : Bool} {steps : Nat}

theorem statementsStable_zero : StatementsStable caseSensitive 0 := by
  constructor <;> intros <;> exact .exhausted _

theorem block_stable (ih : StatementsStable caseSensitive steps) (allowed inBraces : Bool)
    (stream : TokenStream) : Extends (block caseSensitive allowed inBraces (steps + 1) stream)
      (block caseSensitive allowed inBraces (steps + 2) stream) := by
  unfold block
  split
  · exact .refl _
  · exact ih.block allowed inBraces _
  · split
    · exact (ih.function _).bind fun read =>
        (ih.block allowed inBraces read.2).bind fun _ => .refl _
    · exact .refl _
  · split
    · exact .refl _
    · refine (ih.statement _).bind ?_
      rintro ⟨first, rest⟩
      dsimp only
      split
      · exact (ih.block allowed inBraces rest).bind fun _ => .refl _
      · exact .refl _

theorem statement_stable (ih : StatementsStable caseSensitive steps) (stream : TokenStream) :
    Extends (statement caseSensitive (steps + 1) stream)
      (statement caseSensitive (steps + 2) stream) := by
  unfold statement
  split
  · exact ih.branch _
  · exact (condition_stable caseSensitive steps _).bind fun read =>
      (ih.braced read.2).bind fun _ => .refl _
  · exact ((expressionsStable caseSensitive steps).expression _).bind fun _ => .refl _

theorem branch_stable (ih : StatementsStable caseSensitive steps) (stream : TokenStream) :
    Extends (branch caseSensitive (steps + 1) stream)
      (branch caseSensitive (steps + 2) stream) := by
  unfold branch
  refine (condition_stable caseSensitive steps stream).bind ?_
  rintro ⟨test, afterTest⟩
  refine (ih.braced afterTest).bind ?_
  rintro ⟨yes, rest⟩
  dsimp only
  split
  · exact (ih.branch _).bind fun _ => .refl _
  · exact (ih.braced _).bind fun _ => .refl _
  · exact .refl _

theorem braced_stable (ih : StatementsStable caseSensitive steps) (stream : TokenStream) :
    Extends (braced caseSensitive (steps + 1) stream)
      (braced caseSensitive (steps + 2) stream) := by
  unfold braced
  refine (Extends.refl _).bind fun rest => ?_
  exact (ih.block false true rest).bind fun _ => .refl _

theorem function_stable (ih : StatementsStable caseSensitive steps) (stream : TokenStream) :
    Extends (function caseSensitive (steps + 1) stream)
      (function caseSensitive (steps + 2) stream) := by
  unfold function
  refine (Extends.refl _).bind ?_
  rintro ⟨⟨name, params⟩, rest⟩
  exact (ih.block true true rest).bind fun _ => .refl _

theorem statementsStable (caseSensitive : Bool) (steps : Nat) :
    StatementsStable caseSensitive steps := by
  induction steps with
  | zero => exact statementsStable_zero
  | succ steps ih =>
    exact ⟨block_stable ih, statement_stable ih, branch_stable ih, braced_stable ih,
      function_stable ih⟩

end Statements

/-- A block is read alike with all counts of steps that are enough for its stream. -/
theorem block_steps (caseSensitive allowed inBraces : Bool) (stream : TokenStream) {count : Nat}
    (enough : steps stream ≤ count) :
    block caseSensitive allowed inBraces count stream =
      block caseSensitive allowed inBraces (steps stream) stream := by
  induction enough with
  | refl => rfl
  | @step count enough ih =>
    have finished := block_finishes_whole caseSensitive allowed inBraces stream
    rw [← ih] at finished ⊢
    exact (statementsStable caseSensitive count).block allowed inBraces stream finished

end RuleScript.Parser
