import RuleScript.Proofs.Script.Steps

/-!
What the grammar derives, the parser reads. A derivation says nothing about what follows its
tokens, while the parser takes as many tokens as it can, so each kind of phrase comes with the
streams that cannot go on it (`Stops`). On these a reading function that does not run out of steps
gives back the tree of the derivation and leaves the stream behind it.
-/
namespace RuleScript

/-- The symbol that the stream goes on with. -/
def TokenStream.symbol? : TokenStream → Option Symbol
  | .next ⟨.symbol symbol, _, _⟩ _ => some symbol
  | _ => none

/-- How loose a phrase has to be at least for the symbol to go on it: 0 stands for primary phrases,
1 for substitutions, 2 to 7 for the tiers from the tightest on, and 8 for expressions. -/
def Symbol.reach? : Symbol → Option Nat
  | .openParen | .openBracket => some 0
  | .question => some 1
  | .ampersand | .bar => some 2
  | .equal | .notEqual | .less | .greater | .lessEqual | .greaterEqual => some 3
  | .caret | .dollar => some 4
  | .star | .slash => some 5
  | .plus | .minus => some 6
  | .andAnd | .orOr => some 7
  | .assign => some 8
  | _ => none

theorem Tier.reach?_of_operator {level : Tier} {symbol : Symbol} {op : Operator}
    (operator : level.operator? symbol = some op) : symbol.reach? = some (level.height + 1) := by
  cases level <;> cases symbol <;> first | rfl | cases operator

/-- The stream cannot go on a phrase that is no looser than given. -/
def Stops (looseness : Nat) (stream : TokenStream) : Prop :=
  ∀ symbol reach, stream.symbol? = some symbol → symbol.reach? = some reach → looseness < reach

/-- The stream does not go on with the word that gives a conditional its other branch. -/
def NoElse : TokenStream → Prop
  | .next ⟨.keyword .elseWord, _, _⟩ _ => False
  | _ => True

/-- The stream goes on as it may behind a block. -/
def EndsBlock (inBraces : Bool) : TokenStream → Prop
  | .finish _ => True
  | .next ⟨.symbol .closeBrace, _, _⟩ _ => inBraces = true
  | _ => False

namespace Stops

variable {looseness other : Nat} {stream rest : TokenStream} {symbol : Symbol} {start : Position}
  {stop : Nat}

theorem mono (stops : Stops looseness stream) (tighter : other ≤ looseness) :
    Stops other stream := fun symbol reach goesOn reaches =>
  Nat.lt_of_le_of_lt tighter (stops symbol reach goesOn reaches)

/-- A symbol that goes on looser phrases only. -/
theorem of_reach {reach : Nat} (reaches : symbol.reach? = some reach)
    (looser : looseness < reach) :
    Stops looseness (.next ⟨.symbol symbol, start, stop⟩ rest) := by
  intro found foundReach goesOn foundReaches
  cases goesOn
  rw [reaches] at foundReaches
  cases foundReaches
  exact looser

/-- A symbol that goes on no phrase. -/
theorem of_none (reaches : symbol.reach? = none) :
    Stops looseness (.next ⟨.symbol symbol, start, stop⟩ rest) := by
  intro found foundReach goesOn foundReaches
  cases goesOn
  rw [reaches] at foundReaches
  cases foundReaches

theorem lt_reach {reach : Nat} (stops : Stops looseness (.next ⟨.symbol symbol, start, stop⟩ rest))
    (reaches : symbol.reach? = some reach) : looseness < reach :=
  stops symbol reach rfl reaches

end Stops

namespace Parser

/-- Unless the steps run out, the function reads the tokens as the tree and leaves what follows
them, provided it can follow them. -/
def Yields {α : Type} (read : Nat → TokenStream → Except Halt (α × TokenStream))
    (follows : TokenStream → Prop) (tree : α) (tokens : List Spanned) : Prop :=
  ∀ steps rest, follows rest → Finishes (read steps (rest.prepend tokens)) →
    read steps (rest.prepend tokens) = .ok (tree, rest)

/-- A reading function without steps does not finish. -/
theorem Yields.of_succ {α : Type} {read : Nat → TokenStream → Except Halt (α × TokenStream)}
    {follows : TokenStream → Prop} {tree : α} {tokens : List Spanned}
    (zero : ∀ stream, read 0 stream = .error .exhausted)
    (succ : ∀ steps rest, follows rest → Finishes (read (steps + 1) (rest.prepend tokens)) →
      read (steps + 1) (rest.prepend tokens) = .ok (tree, rest)) :
    Yields read follows tree tokens := by
  intro steps rest following finished
  cases steps with
  | zero => exact absurd (zero _) finished
  | succ steps => exact succ steps rest following finished

theorem Finishes.left {α β : Type} {first : Except Halt α} {next : α → Except Halt β}
    (finished : Finishes (first >>= next)) : Finishes first := by
  rintro rfl
  exact finished rfl

theorem ok_bind {α β : Type} (value : α) (next : α → Except Halt β) :
    ((Except.ok value : Except Halt α) >>= next) = next value := rfl

theorem expect_next (symbol : Symbol) (kind : ParseErrorKind) (start : Position) (stop : Nat)
    (rest : TokenStream) :
    expect symbol kind (.next ⟨.symbol symbol, start, stop⟩ rest) = .ok rest :=
  if_pos rfl

/-- What it means for the parser to accept the tokens of a phrase. The keyword of a conditional or
of a declaration is taken off before the function that reads the rest of it is called. -/
def Accepts (caseSensitive : Bool) : Phrase → List Spanned → Prop
  | .expression tree, tokens => Yields (expression caseSensitive) (Stops 8) tree tokens
  | .tier level tree, tokens => ∀ steps rest, Stops level.height rest →
    Finishes (tier caseSensitive steps level (rest.prepend tokens)) →
    ∃ remaining, tier caseSensitive steps level (rest.prepend tokens) =
      chain caseSensitive remaining level tree rest
  | .operand level tree, tokens =>
    Yields (fun steps => operand caseSensitive steps level) (Stops level.height) tree tokens
  | .unary tree, tokens => Yields (unary caseSensitive) (Stops 1) tree tokens
  | .substitution tree, tokens => Yields (substitution caseSensitive) (Stops 1) tree tokens
  | .primary tree, tokens => Yields (primary caseSensitive) (Stops 0) tree tokens
  | .arguments trees, tokens => ∀ finish finishStop, Yields (argumentsFrom caseSensitive)
    (fun _ => True) trees (tokens ++ [⟨.symbol .closeParen, finish, finishStop⟩])
  | .condition tree, tokens => Yields (condition caseSensitive) (fun _ => True) tree tokens
  | .braced trees, tokens => Yields (braced caseSensitive) (fun _ => True) trees tokens
  | .conditional tree, tokens => Yields (branch caseSensitive) NoElse tree tokens.tail
  | .statement tree, tokens => Yields (statement caseSensitive)
    (fun rest => NoElse rest ∧ (tree.isBraced = true ∨ Stops 8 rest)) tree tokens
  | .function tree, tokens => Yields (function caseSensitive) (fun _ => True) tree tokens.tail
  | .block allowed tree, tokens => ∀ inBraces,
    Yields (block caseSensitive allowed inBraces) (EndsBlock inBraces) tree tokens

section Expressions

variable {caseSensitive : Bool}

/-- A chain ends where the stream cannot go on its tier. -/
theorem chain_stops {level : Tier} {steps : Nat} {left : Expr} {rest : TokenStream}
    (stops : Stops (level.height + 1) rest)
    (finished : Finishes (chain caseSensitive steps level left rest)) :
    chain caseSensitive steps level left rest = .ok (left, rest) := by
  cases steps with
  | zero => exact absurd rfl finished
  | succ steps =>
    unfold chain
    split
    · next symbol start stop after =>
      split
      · next op operator =>
        have looser := stops.lt_reach (Tier.reach?_of_operator operator)
        omega
      · rfl
    · rfl

/-- A chain goes on with an operator of its tier. -/
theorem chain_operator {level : Tier} {symbol : Symbol} {op : Operator}
    (operator : level.operator? symbol = some op) (steps : Nat) (left : Expr) (start : Position)
    (stop : Nat) (rest : TokenStream) :
    chain caseSensitive (steps + 1) level left (.next ⟨.symbol symbol, start, stop⟩ rest) =
      operand caseSensitive steps level rest >>= fun (right, rest) =>
        chain caseSensitive steps level (.binary op left right) rest := by
  conv => lhs; unfold chain
  simp only [operator]

theorem Accepts.tier_yields {level : Tier} {tree : Expr} {tokens : List Spanned}
    (accepted : Accepts caseSensitive (.tier level tree) tokens) {steps : Nat} {rest : TokenStream}
    (stops : Stops (level.height + 1) rest)
    (finished : Finishes (tier caseSensitive steps level (rest.prepend tokens))) :
    tier caseSensitive steps level (rest.prepend tokens) = .ok (tree, rest) := by
  obtain ⟨remaining, same⟩ := accepted steps rest (stops.mono (Nat.le_succ _)) finished
  rw [same] at finished
  exact same.trans (chain_stops stops finished)

theorem accepts_single {level : Tier} {tree : Expr} {tokens : List Spanned}
    (inner : Accepts caseSensitive (.operand level tree) tokens) :
    Accepts caseSensitive (.tier level tree) tokens := by
  intro steps rest stops finished
  cases steps with
  | zero => exact absurd rfl finished
  | succ steps =>
    unfold tier at finished ⊢
    have read : operand caseSensitive steps level (rest.prepend tokens) = .ok (tree, rest) :=
      inner steps rest stops finished.left
    exact ⟨steps, by rw [read, ok_bind]⟩

/-- The chain that read the left operand goes on with the operator and the right operand. -/
theorem accepts_join {level : Tier} {symbol : Symbol} {op : Operator} {left right : Expr}
    {ts us : List Spanned} {start : Position} {stop : Nat}
    (first : Accepts caseSensitive (.tier level left) ts)
    (operator : level.operator? symbol = some op)
    (second : Accepts caseSensitive (.operand level right) us) :
    Accepts caseSensitive (.tier level (.binary op left right))
      (ts ++ ⟨.symbol symbol, start, stop⟩ :: us) := by
  intro steps rest stops finished
  rw [TokenStream.prepend_append, TokenStream.prepend_cons] at finished ⊢
  have reaches := Tier.reach?_of_operator operator
  obtain ⟨remaining, same⟩ :=
    first steps _ (.of_reach reaches (Nat.lt_succ_self level.height)) finished
  rw [same] at finished ⊢
  cases remaining with
  | zero => exact absurd rfl finished
  | succ remaining =>
    rw [chain_operator operator] at finished ⊢
    have read : operand caseSensitive remaining level (rest.prepend us) = .ok (right, rest) :=
      second remaining rest stops finished.left
    exact ⟨remaining, by rw [read, ok_bind]⟩

theorem accepts_operand_tighter {level inner : Tier} {tree : Expr} {tokens : List Spanned}
    (below : level.tighter? = some inner)
    (accepted : Accepts caseSensitive (.tier inner tree) tokens) :
    Accepts caseSensitive (.operand level tree) tokens := by
  refine .of_succ (fun _ => rfl) fun steps rest stops finished => ?_
  unfold operand at finished ⊢
  simp only [below] at finished ⊢
  rw [Tier.height_tighter below] at stops
  exact accepted.tier_yields stops finished

theorem accepts_operand_tightest {tree : Expr} {tokens : List Spanned}
    (accepted : Accepts caseSensitive (.unary tree) tokens) :
    Accepts caseSensitive (.operand .bitwise tree) tokens := by
  refine .of_succ (fun _ => rfl) fun steps rest stops finished => ?_
  unfold operand at finished ⊢
  exact accepted steps rest stops finished

theorem accepts_assign {target : VarRef} {value : Expr} {ts us : List Spanned} {start : Position}
    {stop : Nat} (left : Accepts caseSensitive (.tier .logical (.variable target)) ts)
    (right : Accepts caseSensitive (.expression value) us) :
    Accepts caseSensitive (.expression (.assign target value))
      (ts ++ ⟨.symbol .assign, start, stop⟩ :: us) := by
  refine .of_succ (fun _ => rfl) fun steps rest stops finished => ?_
  rw [TokenStream.prepend_append, TokenStream.prepend_cons] at finished ⊢
  unfold expression at finished ⊢
  have atSign : Stops 7 (.next ⟨.symbol .assign, start, stop⟩ (rest.prepend us)) :=
    .of_reach rfl (by decide)
  have read := left.tier_yields atSign finished.left
  rw [read, ok_bind] at finished ⊢
  dsimp only at finished ⊢
  rw [right steps rest stops finished.left, ok_bind]
  rfl

theorem accepts_loosest {tree : Expr} {tokens : List Spanned}
    (inner : Accepts caseSensitive (.tier .logical tree) tokens) :
    Accepts caseSensitive (.expression tree) tokens := by
  refine .of_succ (fun _ => rfl) fun steps rest stops finished => ?_
  unfold expression at finished ⊢
  rw [inner.tier_yields (stops.mono (by decide)) finished.left, ok_bind]
  dsimp only
  split
  · have looser := stops.lt_reach (rfl : Symbol.reach? .assign = some 8)
    omega
  · rfl

theorem accepts_not {tree : Expr} {tokens : List Spanned} {start : Position} {stop : Nat}
    (inner : Accepts caseSensitive (.unary tree) tokens) :
    Accepts caseSensitive (.unary (.not tree)) (⟨.symbol .bang, start, stop⟩ :: tokens) := by
  refine .of_succ (fun _ => rfl) fun steps rest stops finished => ?_
  rw [TokenStream.prepend_cons] at finished ⊢
  unfold unary at finished ⊢
  dsimp only at finished ⊢
  rw [inner steps rest stops finished.left, ok_bind]
  rfl

theorem unary_of_opensPrimary {first : Spanned} (opens : first.token.opensPrimary = true)
    (steps : Nat) (rest : TokenStream) :
    unary caseSensitive (steps + 1) (.next first rest) =
      substitution caseSensitive steps (.next first rest) := by
  unfold unary
  split
  · next equal =>
    cases equal
    cases opens
  · rfl

theorem accepts_plain {tree : Expr} {tokens : List Spanned}
    (opened : (Phrase.substitution tree).Opened tokens)
    (inner : Accepts caseSensitive (.substitution tree) tokens) :
    Accepts caseSensitive (.unary tree) tokens := by
  refine .of_succ (fun _ => rfl) fun steps rest stops finished => ?_
  cases tokens with
  | nil => cases opened
  | cons first others =>
    rw [TokenStream.prepend_cons, unary_of_opensPrimary opened] at finished ⊢
    exact inner steps rest stops finished

theorem accepts_substitute {first fallback : Expr} {ts us : List Spanned} {start : Position}
    {stop : Nat} (left : Accepts caseSensitive (.primary first) ts)
    (right : Accepts caseSensitive (.substitution fallback) us) :
    Accepts caseSensitive (.substitution (.substitute first fallback))
      (ts ++ ⟨.symbol .question, start, stop⟩ :: us) := by
  refine .of_succ (fun _ => rfl) fun steps rest stops finished => ?_
  rw [TokenStream.prepend_append, TokenStream.prepend_cons] at finished ⊢
  unfold substitution at finished ⊢
  have atSign : Stops 0 (.next ⟨.symbol .question, start, stop⟩ (rest.prepend us)) :=
    .of_reach rfl (by decide)
  have read : primary caseSensitive steps _ = _ := left steps _ atSign finished.left
  rw [read, ok_bind] at finished ⊢
  dsimp only at finished ⊢
  rw [right steps rest stops finished.left, ok_bind]
  rfl

theorem accepts_atom {tree : Expr} {tokens : List Spanned}
    (inner : Accepts caseSensitive (.primary tree) tokens) :
    Accepts caseSensitive (.substitution tree) tokens := by
  refine .of_succ (fun _ => rfl) fun steps rest stops finished => ?_
  unfold substitution at finished ⊢
  rw [inner steps rest (stops.mono (by decide)) finished.left, ok_bind]
  dsimp only
  split
  · have looser := stops.lt_reach (rfl : Symbol.reach? .question = some 1)
    omega
  · rfl

theorem accepts_negative {n : Decimal} {start digits : Position} {stop digitsStop : Nat}
    (touching : digits.offset = stop) :
    Accepts caseSensitive (.primary (.literal (.number n.neg)))
      [⟨.symbol .minus, start, stop⟩, ⟨.number n, digits, digitsStop⟩] := by
  refine .of_succ (fun _ => rfl) fun steps rest _ _ => ?_
  simp [primary, negativeNumber, touching]

theorem accepts_parenthesized {tree : Expr} {ts : List Spanned} {start finish : Position}
    {stop finishStop : Nat} (inner : Accepts caseSensitive (.expression tree) ts) :
    Accepts caseSensitive (.primary tree)
      (⟨.symbol .openParen, start, stop⟩ ::
        (ts ++ [⟨.symbol .closeParen, finish, finishStop⟩])) := by
  refine .of_succ (fun _ => rfl) fun steps rest _ finished => ?_
  simp only [TokenStream.prepend_cons, TokenStream.prepend_append, TokenStream.prepend_nil]
    at finished ⊢
  unfold primary at finished ⊢
  dsimp only at finished ⊢
  rw [inner steps _ (.of_none rfl) finished.left, ok_bind]
  dsimp only
  rw [expect_next, ok_bind]
  rfl

/-- Where no bracket follows, there is no index. -/
theorem index_none {steps : Nat} {rest : TokenStream} (stops : Stops 0 rest)
    (finished : Finishes (index caseSensitive steps rest)) :
    index caseSensitive steps rest = .ok (none, rest) := by
  cases steps with
  | zero => exact absurd rfl finished
  | succ steps =>
    unfold index
    split
    · have looser := stops.lt_reach (rfl : Symbol.reach? .openBracket = some 0)
      omega
    · rfl

theorem index_some {tree : Expr} {ts : List Spanned} {opening finish : Position}
    {openingStop finishStop : Nat} (inner : Accepts caseSensitive (.expression tree) ts)
    {steps : Nat} {rest : TokenStream}
    (finished : Finishes (index caseSensitive steps
      (rest.prepend (⟨.symbol .openBracket, opening, openingStop⟩ ::
        (ts ++ [⟨.symbol .closeBracket, finish, finishStop⟩]))))) :
    index caseSensitive steps (rest.prepend (⟨.symbol .openBracket, opening, openingStop⟩ ::
      (ts ++ [⟨.symbol .closeBracket, finish, finishStop⟩]))) = .ok (some tree, rest) := by
  cases steps with
  | zero => exact absurd rfl finished
  | succ steps =>
    simp only [TokenStream.prepend_cons, TokenStream.prepend_append, TokenStream.prepend_nil]
      at finished ⊢
    unfold index at finished ⊢
    dsimp only at finished ⊢
    rw [inner steps _ (.of_none rfl) finished.left, ok_bind]
    dsimp only
    rw [expect_next, ok_bind]
    rfl

/-- A plain name that no parenthesis follows is a variable. -/
theorem primary_variable {name : String} (plain : IsPlainName name) {start : Position} {stop : Nat}
    {rest : TokenStream} (noCall : rest.symbol? ≠ some .openParen) (steps : Nat) :
    primary caseSensitive (steps + 1) (.next ⟨.name name, start, stop⟩ rest) =
      index caseSensitive steps rest >>= fun (index, rest) =>
        pure (.variable ⟨name, index, false⟩, rest) := by
  unfold primary
  dsimp only
  rw [(constant?_eq_none_iff name).2 plain]
  dsimp only
  split
  · exact absurd rfl noCall
  · rfl

theorem primary_call {name : String} (plain : IsPlainName name) {start opening : Position}
    {stop openingStop : Nat} {rest : TokenStream} (steps : Nat) :
    primary caseSensitive (steps + 1) (.next ⟨.name name, start, stop⟩
        (.next ⟨.symbol .openParen, opening, openingStop⟩ rest)) =
      arguments caseSensitive steps rest >>= fun (args, rest) =>
        pure (callOf caseSensitive name args, rest) := by
  unfold primary
  dsimp only
  rw [(constant?_eq_none_iff name).2 plain]

theorem accepts_named {name : String} {start : Position} {stop : Nat}
    (plain : IsPlainName name) :
    Accepts caseSensitive (.primary (.variable ⟨name, none, false⟩))
      [⟨.name name, start, stop⟩] := by
  refine .of_succ (fun _ => rfl) fun steps rest stops finished => ?_
  have noCall : rest.symbol? ≠ some .openParen := fun goesOn =>
    Nat.lt_irrefl 0 (stops _ 0 goesOn rfl)
  rw [TokenStream.prepend_cons, TokenStream.prepend_nil, primary_variable plain noCall]
    at finished ⊢
  rw [index_none stops finished.left, ok_bind]
  rfl

theorem accepts_element {name : String} {tree : Expr} {ts : List Spanned}
    {start opening finish : Position} {stop openingStop finishStop : Nat}
    (plain : IsPlainName name) (inner : Accepts caseSensitive (.expression tree) ts) :
    Accepts caseSensitive (.primary (.variable ⟨name, some tree, false⟩))
      (⟨.name name, start, stop⟩ :: ⟨.symbol .openBracket, opening, openingStop⟩ ::
        (ts ++ [⟨.symbol .closeBracket, finish, finishStop⟩])) := by
  refine .of_succ (fun _ => rfl) fun steps rest _ finished => ?_
  have noCall : (rest.prepend (⟨.symbol .openBracket, opening, openingStop⟩ ::
      (ts ++ [⟨.symbol .closeBracket, finish, finishStop⟩]))).symbol? ≠ some .openParen := by
    simp [TokenStream.symbol?]
  rw [TokenStream.prepend_cons, primary_variable plain noCall] at finished ⊢
  rw [index_some inner finished.left, ok_bind]
  rfl

theorem accepts_localVariable {name : String} {word start : Position} {wordStop stop : Nat} :
    Accepts caseSensitive (.primary (.variable ⟨name, none, true⟩))
      [⟨.keyword .varWord, word, wordStop⟩, ⟨.name name, start, stop⟩] := by
  refine .of_succ (fun _ => rfl) fun steps rest stops finished => ?_
  simp only [TokenStream.prepend_cons, TokenStream.prepend_nil] at finished ⊢
  unfold primary at finished ⊢
  dsimp only at finished ⊢
  rw [index_none stops finished.left, ok_bind]
  rfl

theorem accepts_localElement {name : String} {tree : Expr} {ts : List Spanned}
    {word start opening finish : Position} {wordStop stop openingStop finishStop : Nat}
    (inner : Accepts caseSensitive (.expression tree) ts) :
    Accepts caseSensitive (.primary (.variable ⟨name, some tree, true⟩))
      (⟨.keyword .varWord, word, wordStop⟩ :: ⟨.name name, start, stop⟩ ::
        ⟨.symbol .openBracket, opening, openingStop⟩ ::
        (ts ++ [⟨.symbol .closeBracket, finish, finishStop⟩])) := by
  refine .of_succ (fun _ => rfl) fun steps rest _ finished => ?_
  rw [TokenStream.prepend_cons, TokenStream.prepend_cons] at finished ⊢
  unfold primary at finished ⊢
  dsimp only at finished ⊢
  rw [index_some inner finished.left, ok_bind]
  rfl

theorem accepts_callNone {name : String} {tree : Expr} {start opening finish : Position}
    {stop openingStop finishStop : Nat} (plain : IsPlainName name)
    (called : CallTree caseSensitive name [] tree) :
    Accepts caseSensitive (.primary tree)
      [⟨.name name, start, stop⟩, ⟨.symbol .openParen, opening, openingStop⟩,
        ⟨.symbol .closeParen, finish, finishStop⟩] := by
  refine .of_succ (fun _ => rfl) fun steps rest _ finished => ?_
  simp only [TokenStream.prepend_cons, TokenStream.prepend_nil] at finished ⊢
  rw [primary_call plain] at finished ⊢
  cases steps with
  | zero => exact absurd rfl finished
  | succ steps =>
    rw [(callTree_iff caseSensitive name [] tree).1 called]
    rfl

/-- The token behind the opening parenthesis is not the closing one when arguments follow. -/
theorem arguments_of_opensExpression {first : Spanned}
    (opens : first.token.opensExpression = true) (steps : Nat) (rest : TokenStream) :
    arguments caseSensitive (steps + 1) (.next first rest) =
      argumentsFrom caseSensitive steps (.next first rest) := by
  unfold arguments
  split
  · next equal =>
    cases equal
    cases opens
  · rfl

theorem accepts_callSome {name : String} {args : List Expr} {tree : Expr} {ts : List Spanned}
    {start opening finish : Position} {stop openingStop finishStop : Nat}
    (plain : IsPlainName name) (opened : (Phrase.arguments args).Opened ts)
    (inner : Accepts caseSensitive (.arguments args) ts)
    (called : CallTree caseSensitive name args tree) :
    Accepts caseSensitive (.primary tree)
      (⟨.name name, start, stop⟩ :: ⟨.symbol .openParen, opening, openingStop⟩ ::
        (ts ++ [⟨.symbol .closeParen, finish, finishStop⟩])) := by
  refine .of_succ (fun _ => rfl) fun steps rest _ finished => ?_
  rw [TokenStream.prepend_cons, TokenStream.prepend_cons, primary_call plain] at finished ⊢
  have read : arguments caseSensitive steps
      (rest.prepend (ts ++ [⟨.symbol .closeParen, finish, finishStop⟩])) = .ok (args, rest) := by
    have started := finished.left
    cases steps with
    | zero => exact absurd rfl started
    | succ steps =>
      cases ts with
      | nil => cases opened
      | cons first others =>
        rw [List.cons_append, TokenStream.prepend_cons, arguments_of_opensExpression opened]
          at started ⊢
        exact inner finish finishStop steps rest trivial started
  rw [read, ok_bind, (callTree_iff caseSensitive name args tree).1 called]
  rfl

theorem accepts_lastArgument {tree : Expr} {ts : List Spanned}
    (inner : Accepts caseSensitive (.expression tree) ts) :
    Accepts caseSensitive (.arguments [tree]) ts := by
  intro finish finishStop
  refine .of_succ (fun _ => rfl) fun steps rest _ finished => ?_
  simp only [TokenStream.prepend_append, TokenStream.prepend_cons, TokenStream.prepend_nil]
    at finished ⊢
  unfold argumentsFrom at finished ⊢
  rw [inner steps _ (.of_none rfl) finished.left, ok_bind]
  rfl

theorem accepts_argument {tree : Expr} {others : List Expr} {ts us : List Spanned}
    {start : Position} {stop : Nat} (first : Accepts caseSensitive (.expression tree) ts)
    (rest : Accepts caseSensitive (.arguments others) us) :
    Accepts caseSensitive (.arguments (tree :: others))
      (ts ++ ⟨.symbol .comma, start, stop⟩ :: us) := by
  intro finish finishStop
  refine .of_succ (fun _ => rfl) fun steps following _ finished => ?_
  rw [List.append_assoc, List.cons_append, TokenStream.prepend_append, TokenStream.prepend_cons]
    at finished ⊢
  unfold argumentsFrom at finished ⊢
  have read : expression caseSensitive steps _ = _ := first steps _ (.of_none rfl) finished.left
  rw [read, ok_bind] at finished ⊢
  dsimp only at finished ⊢
  rw [rest finish finishStop steps following trivial finished.left, ok_bind]
  rfl

end Expressions

section Statements

variable {caseSensitive : Bool}

theorem accepts_condition {tree : Expr} {ts : List Spanned} {start finish : Position}
    {stop finishStop : Nat} (inner : Accepts caseSensitive (.expression tree) ts) :
    Accepts caseSensitive (.condition tree)
      (⟨.symbol .openParen, start, stop⟩ ::
        (ts ++ [⟨.symbol .closeParen, finish, finishStop⟩])) := by
  intro steps rest _ finished
  simp only [TokenStream.prepend_cons, TokenStream.prepend_append, TokenStream.prepend_nil]
    at finished ⊢
  unfold condition at finished ⊢
  rw [expect_next, ok_bind] at finished ⊢
  have read : expression caseSensitive steps _ = _ := inner steps _ (.of_none rfl) finished.left
  rw [read, ok_bind]
  dsimp only
  rw [expect_next, ok_bind]
  rfl

theorem accepts_braced {tree : Block} {ts : List Spanned} {start finish : Position}
    {stop finishStop : Nat} (inner : Accepts caseSensitive (.block false tree) ts) :
    Accepts caseSensitive (.braced tree.statements)
      (⟨.symbol .openBrace, start, stop⟩ ::
        (ts ++ [⟨.symbol .closeBrace, finish, finishStop⟩])) := by
  refine .of_succ (fun _ => rfl) fun steps rest _ finished => ?_
  simp only [TokenStream.prepend_cons, TokenStream.prepend_append, TokenStream.prepend_nil]
    at finished ⊢
  unfold braced at finished ⊢
  rw [expect_next, ok_bind] at finished ⊢
  have atBrace : EndsBlock true (.next ⟨.symbol .closeBrace, finish, finishStop⟩ rest) := rfl
  have read : block caseSensitive false true steps _ = _ := inner true steps _ atBrace finished.left
  rw [read, ok_bind]
  dsimp only
  rw [expect_next, ok_bind]
  rfl

theorem accepts_branch {test : Expr} {yes : List Statement} {ts us : List Spanned} {word : Spanned}
    (asked : Accepts caseSensitive (.condition test) ts)
    (held : Accepts caseSensitive (.braced yes) us) :
    Accepts caseSensitive (.conditional (.branch test yes none)) (word :: (ts ++ us)) := by
  refine .of_succ (fun _ => rfl) fun steps rest noElse finished => ?_
  rw [List.tail_cons, TokenStream.prepend_append] at finished ⊢
  unfold branch at finished ⊢
  have readTest : condition caseSensitive steps _ = _ := asked steps _ trivial finished.left
  rw [readTest, ok_bind] at finished ⊢
  dsimp only at finished ⊢
  have readYes : braced caseSensitive steps _ = _ := held steps _ trivial finished.left
  rw [readYes, ok_bind]
  dsimp only
  split
  · cases noElse
  · cases noElse
  · rfl

theorem accepts_branchElse {test : Expr} {yes no : List Statement} {ts us vs : List Spanned}
    {word : Spanned} {start : Position} {stop : Nat}
    (asked : Accepts caseSensitive (.condition test) ts)
    (held : Accepts caseSensitive (.braced yes) us)
    (opened : (Phrase.braced no).Opened vs)
    (otherwise : Accepts caseSensitive (.braced no) vs) :
    Accepts caseSensitive (.conditional (.branch test yes (some no)))
      (word :: (ts ++ (us ++ ⟨.keyword .elseWord, start, stop⟩ :: vs))) := by
  refine .of_succ (fun _ => rfl) fun steps rest _ finished => ?_
  simp only [List.tail_cons, TokenStream.prepend_append, TokenStream.prepend_cons] at finished ⊢
  unfold branch at finished ⊢
  have readTest : condition caseSensitive steps _ = _ := asked steps _ trivial finished.left
  rw [readTest, ok_bind] at finished ⊢
  dsimp only at finished ⊢
  have readYes : braced caseSensitive steps _ = _ := held steps _ trivial finished.left
  rw [readYes, ok_bind] at finished ⊢
  -- The brace that opens the other branch is not the word of another conditional.
  obtain ⟨place, placeStop, others, rfl⟩ := opened.head rfl fun _ => of_decide_eq_true
  rw [TokenStream.prepend_cons] at finished ⊢
  dsimp only at finished ⊢
  have readNo : braced caseSensitive steps _ = _ := otherwise steps rest trivial finished.left
  rw [TokenStream.prepend_cons] at readNo
  rw [readNo, ok_bind]
  rfl

theorem accepts_branchElseIf {test : Expr} {yes : List Statement} {no : Statement}
    {ts us vs : List Spanned} {word : Spanned} {start : Position} {stop : Nat}
    (asked : Accepts caseSensitive (.condition test) ts)
    (held : Accepts caseSensitive (.braced yes) us)
    (opened : (Phrase.conditional no).Opened vs)
    (otherwise : Accepts caseSensitive (.conditional no) vs) :
    Accepts caseSensitive (.conditional (.branch test yes (some [no])))
      (word :: (ts ++ (us ++ ⟨.keyword .elseWord, start, stop⟩ :: vs))) := by
  refine .of_succ (fun _ => rfl) fun steps rest noElse finished => ?_
  simp only [List.tail_cons, TokenStream.prepend_append, TokenStream.prepend_cons] at finished ⊢
  unfold branch at finished ⊢
  have readTest : condition caseSensitive steps _ = _ := asked steps _ trivial finished.left
  rw [readTest, ok_bind] at finished ⊢
  dsimp only at finished ⊢
  have readYes : braced caseSensitive steps _ = _ := held steps _ trivial finished.left
  rw [readYes, ok_bind] at finished ⊢
  obtain ⟨place, placeStop, others, rfl⟩ := opened.head rfl fun _ => of_decide_eq_true
  rw [TokenStream.prepend_cons] at finished ⊢
  dsimp only at finished ⊢
  have readNo : branch caseSensitive steps _ = _ := otherwise steps rest noElse finished.left
  rw [List.tail_cons] at readNo
  rw [readNo, ok_bind]
  rfl

theorem accepts_loop {test : Expr} {body : List Statement} {ts us : List Spanned} {start : Position}
    {stop : Nat} (asked : Accepts caseSensitive (.condition test) ts)
    (repeated : Accepts caseSensitive (.braced body) us) :
    Accepts caseSensitive (.statement (.loop test body))
      (⟨.keyword .whileWord, start, stop⟩ :: (ts ++ us)) := by
  refine .of_succ (fun _ => rfl) fun steps rest _ finished => ?_
  rw [TokenStream.prepend_cons, TokenStream.prepend_append] at finished ⊢
  unfold statement at finished ⊢
  dsimp only at finished ⊢
  have readTest : condition caseSensitive steps _ = _ := asked steps _ trivial finished.left
  rw [readTest, ok_bind] at finished ⊢
  dsimp only at finished ⊢
  have readBody : braced caseSensitive steps _ = _ := repeated steps _ trivial finished.left
  rw [readBody, ok_bind]
  rfl

theorem accepts_conditional {tree : Statement} {ts : List Spanned}
    (opened : (Phrase.conditional tree).Opened ts)
    (inner : Accepts caseSensitive (.conditional tree) ts) :
    Accepts caseSensitive (.statement tree) ts := by
  refine .of_succ (fun _ => rfl) fun steps rest follows finished => ?_
  obtain ⟨place, placeStop, others, rfl⟩ := opened.head rfl fun _ => of_decide_eq_true
  rw [TokenStream.prepend_cons] at finished ⊢
  unfold statement at finished ⊢
  exact inner steps rest follows.1 finished

theorem statement_of_opensExpression {first : Spanned}
    (opens : first.token.opensExpression = true) (steps : Nat) (rest : TokenStream) :
    statement caseSensitive (steps + 1) (.next first rest) =
      expression caseSensitive steps (.next first rest) >>= fun (value, rest) =>
        pure (.expression value, rest) := by
  conv => lhs; unfold statement
  split
  · next equal =>
    cases equal
    cases opens
  · next equal =>
    cases equal
    cases opens
  · rfl

theorem accepts_evaluated {tree : Expr} {ts : List Spanned}
    (opened : (Phrase.expression tree).Opened ts)
    (inner : Accepts caseSensitive (.expression tree) ts) :
    Accepts caseSensitive (.statement (.expression tree)) ts := by
  refine .of_succ (fun _ => rfl) fun steps rest follows finished => ?_
  have stops : Stops 8 rest := follows.2.resolve_left nofun
  cases ts with
  | nil => cases opened
  | cons first others =>
    rw [TokenStream.prepend_cons, statement_of_opensExpression opened] at finished ⊢
    have read : expression caseSensitive steps _ = _ := inner steps rest stops finished.left
    rw [TokenStream.prepend_cons] at read
    rw [read, ok_bind]
    rfl

theorem parameters_complete {names : List String} {tokens : List Spanned}
    (listed : NameList names tokens) (finish : Position) (finishStop : Nat) (rest : TokenStream) :
    parameters ((TokenStream.next ⟨.symbol .closeParen, finish, finishStop⟩ rest).prepend tokens) =
      .ok (names, .next ⟨.symbol .closeParen, finish, finishStop⟩ rest) := by
  induction listed with
  | last => rfl
  | more _ others =>
    simp only [TokenStream.prepend_cons]
    rw [parameters, others, ok_bind]
    rfl

theorem parametersOrNone_complete {names : List String} {tokens : List Spanned}
    (declared : Parameters names tokens) (finish : Position) (finishStop : Nat)
    (rest : TokenStream) :
    parametersOrNone
        ((TokenStream.next ⟨.symbol .closeParen, finish, finishStop⟩ rest).prepend tokens) =
      .ok (names, .next ⟨.symbol .closeParen, finish, finishStop⟩ rest) := by
  obtain ⟨rfl, rfl⟩ | listed := declared
  · rfl
  · have read := parameters_complete listed finish finishStop rest
    cases listed with
    | last => exact read
    | more _ => exact read

theorem functionHead_complete {name : String} {params : List String} {tokens : List Spanned}
    (declared : Parameters params tokens) (start opening closing brace : Position)
    (stop openingStop closingStop braceStop : Nat) (rest : TokenStream) :
    functionHead (.next ⟨.name name, start, stop⟩ (.next ⟨.symbol .openParen, opening, openingStop⟩
        ((TokenStream.next ⟨.symbol .closeParen, closing, closingStop⟩
          (.next ⟨.symbol .openBrace, brace, braceStop⟩ rest)).prepend tokens))) =
      .ok ((name, params), rest) := by
  unfold functionHead
  simp only [expect_next, parametersOrNone_complete declared, ok_bind]
  rfl

theorem accepts_function {name : String} {params : List String} {body : Block}
    {ps ts : List Spanned} {word : Spanned} {start opening closing brace finish : Position}
    {stop openingStop closingStop braceStop finishStop : Nat} (declared : Parameters params ps)
    (inner : Accepts caseSensitive (.block true body) ts) :
    Accepts caseSensitive (.function ⟨name, params, body⟩)
      (word :: ⟨.name name, start, stop⟩ :: ⟨.symbol .openParen, opening, openingStop⟩ ::
        (ps ++ ⟨.symbol .closeParen, closing, closingStop⟩ ::
          ⟨.symbol .openBrace, brace, braceStop⟩ ::
          (ts ++ [⟨.symbol .closeBrace, finish, finishStop⟩]))) := by
  refine .of_succ (fun _ => rfl) fun steps rest _ finished => ?_
  simp only [List.tail_cons, TokenStream.prepend_cons, TokenStream.prepend_append,
    TokenStream.prepend_nil] at finished ⊢
  unfold function at finished ⊢
  rw [functionHead_complete declared, ok_bind] at finished ⊢
  dsimp only at finished ⊢
  have atBrace : EndsBlock true (.next ⟨.symbol .closeBrace, finish, finishStop⟩ rest) := rfl
  have read : block caseSensitive true true steps _ = _ := inner true steps _ atBrace finished.left
  rw [read, ok_bind]
  dsimp only
  rw [expect_next, ok_bind]
  rfl

theorem accepts_done {allowed : Bool} : Accepts caseSensitive (.block allowed ⟨[], []⟩) [] := by
  intro inBraces
  refine .of_succ (fun _ => rfl) fun steps rest ends _ => ?_
  rw [TokenStream.prepend_nil]
  unfold EndsBlock at ends
  split at ends
  · rfl
  · subst ends
    rfl
  · cases ends

theorem accepts_separator {allowed : Bool} {tree : Block} {ts : List Spanned} {start : Position}
    {stop : Nat} (rest : Accepts caseSensitive (.block allowed tree) ts) :
    Accepts caseSensitive (.block allowed tree) (⟨.symbol .semicolon, start, stop⟩ :: ts) := by
  intro inBraces
  refine .of_succ (fun _ => rfl) fun steps following ends finished => ?_
  rw [TokenStream.prepend_cons] at finished ⊢
  unfold block at finished ⊢
  exact rest inBraces steps following ends finished

theorem accepts_declaration {declared : FunctionDef} {functions : List FunctionDef}
    {statements : List Statement} {ts us : List Spanned}
    (opened : (Phrase.function declared).Opened ts)
    (first : Accepts caseSensitive (.function declared) ts)
    (rest : Accepts caseSensitive (.block true ⟨functions, statements⟩) us) :
    Accepts caseSensitive (.block true ⟨declared :: functions, statements⟩) (ts ++ us) := by
  intro inBraces
  refine .of_succ (fun _ => rfl) fun steps following ends finished => ?_
  obtain ⟨place, placeStop, others, rfl⟩ := opened.head rfl fun _ => of_decide_eq_true
  rw [TokenStream.prepend_append, TokenStream.prepend_cons] at finished ⊢
  unfold block at finished ⊢
  dsimp only at finished ⊢
  rw [if_pos rfl] at finished ⊢
  have readFirst : function caseSensitive steps _ = _ := first steps _ trivial finished.left
  rw [List.tail_cons] at readFirst
  rw [readFirst, ok_bind] at finished ⊢
  dsimp only at finished ⊢
  have readRest : block caseSensitive true inBraces steps _ = _ :=
    rest inBraces steps following ends finished.left
  rw [readRest, ok_bind]
  rfl

/-- A token that may open a statement makes the block go on with one. -/
theorem block_of_opensStatement {first : Spanned} (opens : first.token.opensStatement = true)
    (allowed inBraces : Bool) (steps : Nat) (rest : TokenStream) :
    block caseSensitive allowed inBraces (steps + 1) (.next first rest) =
      statement caseSensitive steps (.next first rest) >>= fun (tree, rest) =>
        if tree.isBraced || endsStatement inBraces rest then
          block caseSensitive allowed inBraces steps rest >>= fun (others, rest) =>
            pure (others.addStatement tree, rest)
        else unexpected .unexpected rest := by
  obtain ⟨token, start, stop⟩ := first
  have noBrace : startsWith .closeBrace (.next ⟨token, start, stop⟩ rest) = false := by
    cases token with
    | symbol sign => cases sign <;> first | rfl | cases opens
    | _ => rfl
  conv => lhs; unfold block
  split
  · next equal => cases equal
  · next equal =>
    cases equal
    cases opens
  · next equal =>
    cases equal
    cases opens
  · rw [noBrace, Bool.and_false, if_neg Bool.false_ne_true]

/-- The tokens of a block do not start with the word of another branch. -/
theorem noElse_prepend {allowed inBraces : Bool} {tree : Block} {us : List Spanned}
    {rest : TokenStream} (opened : (Phrase.block allowed tree).Opened us)
    (ends : EndsBlock inBraces rest) : NoElse (rest.prepend us) := by
  cases us with
  | nil =>
    unfold EndsBlock at ends
    split at ends
    · trivial
    · trivial
    · cases ends
  | cons first others =>
    obtain ⟨token, start, stop⟩ := first
    cases token with
    | keyword word =>
      cases word with
      | elseWord => cases allowed <;> cases opened
      | _ => trivial
    | _ => trivial

theorem endsStatement_prepend {inBraces : Bool} {us : List Spanned} {rest : TokenStream}
    (apart : Separated us) (ends : EndsBlock inBraces rest) :
    endsStatement inBraces (rest.prepend us) = true := by
  cases us with
  | nil =>
    unfold EndsBlock at ends
    split at ends
    · rfl
    · exact ends
    · cases ends
  | cons first others =>
    obtain ⟨token, start, stop⟩ := first
    cases (apart : token = .symbol .semicolon)
    rfl

theorem stops_of_endsStatement {inBraces : Bool} {stream : TokenStream} {looseness : Nat}
    (ends : endsStatement inBraces stream = true) : Stops looseness stream := by
  unfold endsStatement at ends
  split at ends
  · intro symbol reach goesOn
    cases goesOn
  · exact .of_none rfl
  · exact .of_none rfl
  · cases ends

theorem accepts_item {allowed : Bool} {first : Statement} {functions : List FunctionDef}
    {statements : List Statement} {ts us : List Spanned}
    (opened : (Phrase.statement first).Opened ts)
    (openedRest : (Phrase.block allowed ⟨functions, statements⟩).Opened us)
    (head : Accepts caseSensitive (.statement first) ts)
    (apart : first.EndsInBrace ∨ Separated us)
    (rest : Accepts caseSensitive (.block allowed ⟨functions, statements⟩) us) :
    Accepts caseSensitive (.block allowed ⟨functions, first :: statements⟩) (ts ++ us) := by
  intro inBraces
  refine .of_succ (fun _ => rfl) fun steps following ends finished => ?_
  have separated : first.isBraced = true ∨ endsStatement inBraces (following.prepend us) = true :=
    apart.imp Statement.isBraced_iff.2 fun parted => endsStatement_prepend parted ends
  have follows : NoElse (following.prepend us) ∧
      (first.isBraced = true ∨ Stops 8 (following.prepend us)) :=
    ⟨noElse_prepend openedRest ends, separated.imp_right stops_of_endsStatement⟩
  cases ts with
  | nil => cases opened
  | cons start others =>
    rw [TokenStream.prepend_append, TokenStream.prepend_cons, block_of_opensStatement opened]
      at finished ⊢
    have readFirst : statement caseSensitive steps _ = _ := head steps _ follows finished.left
    rw [TokenStream.prepend_cons] at readFirst
    rw [readFirst, ok_bind] at finished ⊢
    dsimp only at finished ⊢
    rw [if_pos (Bool.or_eq_true_iff.2 separated)] at finished ⊢
    have readRest : block caseSensitive allowed inBraces steps _ = _ :=
      rest inBraces steps following ends finished.left
    rw [readRest, ok_bind]
    rfl

/-- The parser accepts what the grammar derives. -/
theorem accepts_of_derives {phrase : Phrase} {tokens : List Spanned}
    (derived : Derives caseSensitive phrase tokens) : Accepts caseSensitive phrase tokens := by
  induction derived with
  | assign _ _ left right => exact accepts_assign left right
  | loosest _ inner => exact accepts_loosest inner
  | single _ inner => exact accepts_single inner
  | join _ operator _ first second =>
    exact accepts_join first (Tier.operator?_eq_some_iff.2 operator) second
  | tighter below _ inner =>
    exact accepts_operand_tighter (Tier.tighter?_eq_some_iff.2 below) inner
  | tightest _ inner => exact accepts_operand_tightest inner
  | not _ inner => exact accepts_not inner
  | plain phrase inner => exact accepts_plain phrase.opens inner
  | substitute _ _ left right => exact accepts_substitute left right
  | atom _ inner => exact accepts_atom inner
  | negative touching => exact accepts_negative touching
  | parenthesized _ inner => exact accepts_parenthesized inner
  | named plain => exact accepts_named plain
  | element plain _ inner => exact accepts_element plain inner
  | localVariable => exact accepts_localVariable
  | localElement _ inner => exact accepts_localElement inner
  | callNone plain called => exact accepts_callNone plain called
  | callSome plain phrase called inner => exact accepts_callSome plain phrase.opens inner called
  | lastArgument _ inner => exact accepts_lastArgument inner
  | argument _ _ first rest => exact accepts_argument first rest
  | condition _ inner => exact accepts_condition inner
  | braced _ inner => exact accepts_braced inner
  | branch _ _ asked held => exact accepts_branch asked held
  | branchElse _ _ phrase asked held otherwise =>
    exact accepts_branchElse asked held phrase.opens otherwise
  | branchElseIf _ _ phrase asked held otherwise =>
    exact accepts_branchElseIf asked held phrase.opens otherwise
  | loop _ _ asked repeated => exact accepts_loop asked repeated
  | conditional phrase inner => exact accepts_conditional phrase.opens inner
  | evaluated phrase inner => exact accepts_evaluated phrase.opens inner
  | function declared _ inner => exact accepts_function declared inner
  | done => exact accepts_done
  | separator _ rest => exact accepts_separator rest
  | declaration phrase _ first rest => exact accepts_declaration phrase.opens first rest
  | item phrase apart others head rest =>
    exact accepts_item phrase.opens others.opens head apart rest
  | number => exact .of_succ (fun _ => rfl) fun _ _ _ _ => rfl
  | text => exact .of_succ (fun _ => rfl) fun _ _ _ _ => rfl
  | boolean => exact .of_succ (fun _ => rfl) fun _ _ _ _ => rfl
  | null => exact .of_succ (fun _ => rfl) fun _ _ _ _ => rfl
  | pi => exact .of_succ (fun _ => rfl) fun _ _ _ _ => rfl
  | euler => exact .of_succ (fun _ => rfl) fun _ _ _ _ => rfl

end Statements
end Parser
end RuleScript
