import RuleScript.Proofs.Script.Soundness

/-!
The steps that the parser is given always suffice. A phrase that was read took at least one token,
and between two tokens there are fewer than 32 calls, so `Parser.steps` bounds the depth of calls on
any stream, whether it can be read or not.
-/
namespace RuleScript

/-- A phrase other than a block has a token. -/
theorem Derives.length_pos {caseSensitive : Bool} {phrase : Phrase} {tokens : List Spanned}
    (derived : Derives caseSensitive phrase tokens) (nonempty : phrase.mayBeEmpty = false) :
    0 < tokens.length := by
  have opened := derived.opens
  cases tokens with
  | nil =>
    rw [Phrase.Opened, nonempty] at opened
    cases opened
  | cons first others => simp

/-- How many tiers bind tighter, counting from one. -/
def Tier.height : Tier → Nat
  | .logical => 6
  | .additive => 5
  | .multiplicative => 4
  | .power => 3
  | .comparison => 2
  | .bitwise => 1

theorem Tier.height_le (level : Tier) : 1 ≤ level.height ∧ level.height ≤ 6 := by
  cases level <;> decide

theorem Tier.height_tighter {level inner : Tier} (below : level.tighter? = some inner) :
    level.height = inner.height + 1 := by
  cases level <;> cases below <;> rfl

namespace Parser

/-- The steps did not run out. -/
def Finishes {α : Type} (outcome : Except Halt α) : Prop :=
  outcome ≠ .error .exhausted

theorem finishes_ok {α : Type} (value : α) : Finishes (.ok value) := nofun

theorem finishes_failed {α : Type} (error : ParseError) :
    Finishes (.error (.failed error) : Except Halt α) := nofun

theorem finishes_unexpected {α : Type} (kind : ParseErrorKind) (stream : TokenStream) :
    Finishes (unexpected kind stream : Except Halt α) :=
  finishes_failed _

theorem Finishes.bind {α β : Type} {first : Except Halt α} {next : α → Except Halt β}
    (finished : Finishes first) (continued : ∀ value, first = .ok value → Finishes (next value)) :
    Finishes (first >>= next) := by
  cases first with
  | error halt =>
    cases halt with
    | failed error => exact finishes_failed error
    | exhausted => exact absurd rfl finished
  | ok value => exact continued value rfl

theorem finishes_expect (symbol : Symbol) (kind : ParseErrorKind) (stream : TokenStream) :
    Finishes (expect symbol kind stream) := by
  unfold expect
  split
  · split
    · exact finishes_ok _
    · exact finishes_unexpected _ _
  · exact finishes_unexpected _ _

theorem finishes_negativeNumber (minus : Spanned) (stream : TokenStream) :
    Finishes (negativeNumber minus stream) := by
  unfold negativeNumber
  dsimp only
  split
  · exact finishes_failed _
  · exact finishes_failed _
  · split
    · split
      · exact finishes_ok _
      · exact finishes_failed _
    · exact finishes_failed _

theorem finishes_parameters (stream : TokenStream) : Finishes (parameters stream) := by
  fun_induction parameters stream with
  | case1 param start stop comma commaStop rest ih =>
    exact ih.bind fun _ _ => finishes_ok _
  | case2 => exact finishes_ok _
  | case3 => exact finishes_unexpected _ _

theorem finishes_functionHead (stream : TokenStream) : Finishes (functionHead stream) := by
  unfold functionHead
  split
  · refine (finishes_expect _ _ _).bind fun afterOpening _ => ?_
    have listed : Finishes (parametersOrNone afterOpening) := by
      unfold parametersOrNone
      split
      · exact finishes_ok _
      · exact finishes_parameters _
    refine listed.bind fun _ _ => (finishes_expect _ _ _).bind fun _ _ => ?_
    exact (finishes_expect _ _ _).bind fun _ _ => finishes_ok _
  · exact finishes_unexpected _ _

/-- A reading function puts no token in front of its stream. -/
theorem Reads.length_le {α : Type} {read : TokenStream → Except Halt (α × TokenStream)}
    {stands : α → List Spanned → Prop} (reads : Reads read stands) {stream rest : TokenStream}
    {tree : α} (success : read stream = .ok (tree, rest)) : rest.length ≤ stream.length := by
  obtain ⟨tokens, rfl, -⟩ := reads success
  rw [TokenStream.length_prepend]
  omega

/-- A reading function takes the tokens of a phrase off its stream. -/
theorem Reads.shortens {α : Type} {read : TokenStream → Except Halt (α × TokenStream)}
    {stands : α → List Spanned → Prop} (reads : Reads read stands)
    (nonempty : ∀ {tree tokens}, stands tree tokens → 0 < tokens.length)
    {stream rest : TokenStream} {tree : α} (success : read stream = .ok (tree, rest)) :
    rest.length < stream.length := by
  obtain ⟨tokens, rfl, standing⟩ := reads success
  have positive := nonempty standing
  rw [TokenStream.length_prepend]
  omega

/-- With the steps that remain, a reading function finishes on every stream that leaves it as many
as the function needs on top of 32 for each token. -/
def Suffices {α : Type} (read : TokenStream → Except Halt α) (need steps : Nat) : Prop :=
  ∀ stream : TokenStream, 32 * stream.length + need ≤ steps → Finishes (read stream)

/-- The functions that read expressions finish with the given steps. A function needs one step more
than those it calls before it has taken a token. -/
structure ExpressionsFinish (caseSensitive : Bool) (steps : Nat) : Prop where
  expression : Suffices (expression caseSensitive steps) 16 steps
  tier : ∀ level, Suffices (tier caseSensitive steps level) (2 * level.height + 3) steps
  operand : ∀ level, Suffices (operand caseSensitive steps level) (2 * level.height + 2) steps
  chain : ∀ level left, Suffices (chain caseSensitive steps level left) 1 steps
  unary : Suffices (unary caseSensitive steps) 3 steps
  substitution : Suffices (substitution caseSensitive steps) 2 steps
  primary : Suffices (primary caseSensitive steps) 1 steps
  index : Suffices (index caseSensitive steps) 1 steps
  arguments : Suffices (arguments caseSensitive steps) 18 steps
  argumentsFrom : Suffices (argumentsFrom caseSensitive steps) 17 steps

section Expressions

variable {caseSensitive : Bool} {steps : Nat}

theorem expression_shortens {stream rest : TokenStream} {tree : Expr}
    (success : expression caseSensitive steps stream = .ok (tree, rest)) :
    rest.length < stream.length :=
  (expressionsSound caseSensitive steps).expression.shortens
    (fun derived => derived.length_pos rfl) success

theorem operand_shortens {level : Tier} {stream rest : TokenStream} {tree : Expr}
    (success : operand caseSensitive steps level stream = .ok (tree, rest)) :
    rest.length < stream.length :=
  ((expressionsSound caseSensitive steps).operand level).shortens
    (fun derived => derived.length_pos rfl) success

theorem expressionsFinish_zero : ExpressionsFinish caseSensitive 0 := by
  constructor <;> intros <;> intro stream enough <;> omega

theorem expression_finishes (ih : ExpressionsFinish caseSensitive steps) :
    Suffices (expression caseSensitive (steps + 1)) 16 (steps + 1) := by
  intro stream enough
  unfold expression
  refine (ih.tier .logical stream (by simp only [Tier.height]; omega)).bind ?_
  rintro ⟨left, rest⟩ read
  have shorter := ((expressionsSound caseSensitive steps).tier .logical).shortens
    (fun derived => derived.length_pos rfl) read
  dsimp only
  split
  · split
    · rw [TokenStream.length] at shorter
      exact (ih.expression _ (by omega)).bind fun _ _ => finishes_ok _
    · exact finishes_failed _
    · exact finishes_failed _
  · exact finishes_ok _

theorem tier_finishes (ih : ExpressionsFinish caseSensitive steps) (level : Tier) :
    Suffices (tier caseSensitive (steps + 1) level) (2 * level.height + 3) (steps + 1) := by
  intro stream enough
  unfold tier
  refine (ih.operand level stream (by omega)).bind ?_
  rintro ⟨left, rest⟩ read
  have shorter := operand_shortens read
  exact ih.chain level left rest (by omega)

theorem operand_finishes (ih : ExpressionsFinish caseSensitive steps) (level : Tier) :
    Suffices (operand caseSensitive (steps + 1) level) (2 * level.height + 2) (steps + 1) := by
  intro stream enough
  unfold operand
  split
  · next inner below =>
    rw [Tier.height_tighter below] at enough
    exact ih.tier inner stream (by omega)
  · have bounds := level.height_le
    exact ih.unary stream (by omega)

theorem chain_finishes (ih : ExpressionsFinish caseSensitive steps) (level : Tier) (left : Expr) :
    Suffices (chain caseSensitive (steps + 1) level left) 1 (steps + 1) := by
  intro stream enough
  unfold chain
  split
  · next symbol start stop after =>
    rw [TokenStream.length] at enough
    have bounds := level.height_le
    split
    · refine (ih.operand level after (by omega)).bind ?_
      rintro ⟨right, rest⟩ read
      have shorter := operand_shortens read
      exact ih.chain level _ rest (by omega)
    · exact finishes_ok _
  · exact finishes_ok _

theorem unary_finishes (ih : ExpressionsFinish caseSensitive steps) :
    Suffices (unary caseSensitive (steps + 1)) 3 (steps + 1) := by
  intro stream enough
  unfold unary
  split
  · rw [TokenStream.length] at enough
    exact (ih.unary _ (by omega)).bind fun _ _ => finishes_ok _
  · exact ih.substitution stream (by omega)

theorem substitution_finishes (ih : ExpressionsFinish caseSensitive steps) :
    Suffices (substitution caseSensitive (steps + 1)) 2 (steps + 1) := by
  intro stream enough
  unfold substitution
  refine (ih.primary stream (by omega)).bind ?_
  rintro ⟨first, rest⟩ read
  have shorter := (expressionsSound caseSensitive steps).primary.shortens
    (fun derived => derived.length_pos rfl) read
  dsimp only
  split
  · rw [TokenStream.length] at shorter
    exact (ih.substitution _ (by omega)).bind fun _ _ => finishes_ok _
  · exact finishes_ok _

theorem primary_finishes (ih : ExpressionsFinish caseSensitive steps) :
    Suffices (primary caseSensitive (steps + 1)) 1 (steps + 1) := by
  intro stream enough
  unfold primary
  split
  · exact finishes_failed _
  · exact finishes_failed _
  · next spanned rest =>
    rw [TokenStream.length] at enough
    split
    · exact finishes_ok _
    · exact finishes_ok _
    · exact finishes_ok _
    · exact finishes_ok _
    · exact finishes_negativeNumber _ _
    · exact (ih.expression _ (by omega)).bind fun _ _ =>
        (finishes_expect _ _ _).bind fun _ _ => finishes_ok _
    · split
      · rw [TokenStream.length] at enough
        exact (ih.index _ (by omega)).bind fun _ _ => finishes_ok _
      · exact finishes_unexpected _ _
    · split
      · exact finishes_ok _
      · split
        · rw [TokenStream.length] at enough
          exact (ih.arguments _ (by omega)).bind fun _ _ => finishes_ok _
        · exact (ih.index _ (by omega)).bind fun _ _ => finishes_ok _
    · exact finishes_unexpected _ _

theorem index_finishes (ih : ExpressionsFinish caseSensitive steps) :
    Suffices (index caseSensitive (steps + 1)) 1 (steps + 1) := by
  intro stream enough
  unfold index
  split
  · rw [TokenStream.length] at enough
    exact (ih.expression _ (by omega)).bind fun _ _ =>
      (finishes_expect _ _ _).bind fun _ _ => finishes_ok _
  · exact finishes_ok _

theorem arguments_finishes (ih : ExpressionsFinish caseSensitive steps) :
    Suffices (arguments caseSensitive (steps + 1)) 18 (steps + 1) := by
  intro stream enough
  unfold arguments
  split
  · exact finishes_ok _
  · exact ih.argumentsFrom stream (by omega)

theorem argumentsFrom_finishes (ih : ExpressionsFinish caseSensitive steps) :
    Suffices (argumentsFrom caseSensitive (steps + 1)) 17 (steps + 1) := by
  intro stream enough
  unfold argumentsFrom
  refine (ih.expression stream (by omega)).bind ?_
  rintro ⟨arg, rest⟩ read
  have shorter := expression_shortens read
  dsimp only
  split
  · rw [TokenStream.length] at shorter
    exact (ih.argumentsFrom _ (by omega)).bind fun _ _ => finishes_ok _
  · exact finishes_ok _
  all_goals exact finishes_unexpected _ _

theorem expressionsFinish (caseSensitive : Bool) (steps : Nat) :
    ExpressionsFinish caseSensitive steps := by
  induction steps with
  | zero => exact expressionsFinish_zero
  | succ steps ih =>
    exact ⟨expression_finishes ih, tier_finishes ih, operand_finishes ih, chain_finishes ih,
      unary_finishes ih, substitution_finishes ih, primary_finishes ih, index_finishes ih,
      arguments_finishes ih, argumentsFrom_finishes ih⟩

end Expressions

theorem condition_finishes (caseSensitive : Bool) (steps : Nat) :
    Suffices (condition caseSensitive steps) 0 steps := by
  intro stream enough
  unfold condition
  refine (finishes_expect _ _ _).bind fun rest opened => ?_
  obtain ⟨start, stop, rfl⟩ := expect_ok opened
  rw [TokenStream.length] at enough
  exact ((expressionsFinish caseSensitive steps).expression rest (by omega)).bind fun _ _ =>
    (finishes_expect _ _ _).bind fun _ _ => finishes_ok _

/-- The functions that read statements finish with the given steps. -/
structure StatementsFinish (caseSensitive : Bool) (steps : Nat) : Prop where
  block : ∀ allowed inBraces, Suffices (block caseSensitive allowed inBraces steps) 20 steps
  statement : Suffices (statement caseSensitive steps) 19 steps
  branch : Suffices (branch caseSensitive steps) 1 steps
  braced : Suffices (braced caseSensitive steps) 1 steps
  function : Suffices (function caseSensitive steps) 1 steps

section Statements

variable {caseSensitive : Bool} {steps : Nat}

theorem statementsFinish_zero : StatementsFinish caseSensitive 0 := by
  constructor <;> intros <;> intro stream enough <;> omega

theorem block_finishes (ih : StatementsFinish caseSensitive steps) (allowed inBraces : Bool) :
    Suffices (block caseSensitive allowed inBraces (steps + 1)) 20 (steps + 1) := by
  intro stream enough
  unfold block
  split
  · exact finishes_ok _
  · rw [TokenStream.length] at enough
    exact ih.block allowed inBraces _ (by omega)
  · rw [TokenStream.length] at enough
    split
    · refine (ih.function _ (by omega)).bind ?_
      rintro ⟨declared, rest⟩ read
      have noLonger := (statementsSound caseSensitive steps).function.length_le read
      exact (ih.block allowed inBraces rest (by omega)).bind fun _ _ => finishes_ok _
    · exact finishes_unexpected _ _
  · split
    · exact finishes_ok _
    · refine (ih.statement stream (by omega)).bind ?_
      rintro ⟨first, rest⟩ read
      have shorter := (statementsSound caseSensitive steps).statement.shortens
        (fun derived => derived.length_pos rfl) read
      dsimp only
      split
      · exact (ih.block allowed inBraces rest (by omega)).bind fun _ _ => finishes_ok _
      · exact finishes_unexpected _ _

theorem statement_finishes (ih : StatementsFinish caseSensitive steps) :
    Suffices (statement caseSensitive (steps + 1)) 19 (steps + 1) := by
  intro stream enough
  unfold statement
  split
  · rw [TokenStream.length] at enough
    exact ih.branch _ (by omega)
  · rw [TokenStream.length] at enough
    refine (condition_finishes caseSensitive steps _ (by omega)).bind ?_
    rintro ⟨test, rest⟩ read
    have noLonger := (condition_sound caseSensitive steps).length_le read
    exact (ih.braced rest (by omega)).bind fun _ _ => finishes_ok _
  · exact ((expressionsFinish caseSensitive steps).expression stream (by omega)).bind fun _ _ =>
      finishes_ok _

theorem branch_finishes (ih : StatementsFinish caseSensitive steps) :
    Suffices (branch caseSensitive (steps + 1)) 1 (steps + 1) := by
  intro stream enough
  unfold branch
  refine (condition_finishes caseSensitive steps stream (by omega)).bind ?_
  rintro ⟨test, afterTest⟩ asked
  have shorter := (condition_sound caseSensitive steps).shortens
    (fun derived => derived.length_pos rfl) asked
  refine (ih.braced afterTest (by omega)).bind ?_
  rintro ⟨yes, afterYes⟩ held
  have noLonger := (statementsSound caseSensitive steps).braced.length_le held
  dsimp only
  split
  · rw [TokenStream.length, TokenStream.length] at noLonger
    exact (ih.branch _ (by omega)).bind fun _ _ => finishes_ok _
  · rw [TokenStream.length] at noLonger
    exact (ih.braced _ (by omega)).bind fun _ _ => finishes_ok _
  · exact finishes_ok _

theorem braced_finishes (ih : StatementsFinish caseSensitive steps) :
    Suffices (braced caseSensitive (steps + 1)) 1 (steps + 1) := by
  intro stream enough
  unfold braced
  refine (finishes_expect _ _ _).bind fun rest opened => ?_
  obtain ⟨start, stop, rfl⟩ := expect_ok opened
  rw [TokenStream.length] at enough
  exact (ih.block false true rest (by omega)).bind fun _ _ =>
    (finishes_expect _ _ _).bind fun _ _ => finishes_ok _

theorem function_finishes (ih : StatementsFinish caseSensitive steps) :
    Suffices (function caseSensitive (steps + 1)) 1 (steps + 1) := by
  intro stream enough
  unfold function
  refine (finishes_functionHead stream).bind ?_
  rintro ⟨⟨name, params⟩, rest⟩ headed
  have shorter : rest.length < stream.length := by
    refine functionHead_sound.shortens ?_ headed
    rintro _ _ ⟨ps, _, _, _, _, _, _, _, _, rfl, -⟩
    simp
  exact (ih.block true true rest (by omega)).bind fun _ _ =>
    (finishes_expect _ _ _).bind fun _ _ => finishes_ok _

theorem statementsFinish (caseSensitive : Bool) (steps : Nat) :
    StatementsFinish caseSensitive steps := by
  induction steps with
  | zero => exact statementsFinish_zero
  | succ steps ih =>
    exact ⟨block_finishes ih, statement_finishes ih, branch_finishes ih, braced_finishes ih,
      function_finishes ih⟩

end Statements

/-- The steps of a whole stream are enough to read a block from it. -/
theorem block_finishes_whole (caseSensitive allowed inBraces : Bool) (stream : TokenStream) :
    Finishes (block caseSensitive allowed inBraces (steps stream) stream) := by
  refine (statementsFinish caseSensitive (steps stream)).block allowed inBraces stream ?_
  unfold steps
  omega

end Parser
end RuleScript
