import RuleScript.Proofs.Script.Grammar

/-!
What the parser reads is a phrase of the grammar: when a reading function succeeds, the tokens it
took off its stream derive the phrase with the tree it gives back. The functions call each other
with one step less, so the statement is proved for all of them at once, by induction on the steps.
-/
namespace RuleScript

/-- The parser knows the operators of the grammar. -/
theorem Tier.operator?_eq_some_iff {level : Tier} {symbol : Symbol} {op : Operator} :
    level.operator? symbol = some op ↔ level.Joins symbol op := by
  constructor
  · intro known
    cases level <;> cases symbol <;> cases known <;> constructor
  · intro joins
    cases joins <;> rfl

theorem Tier.tighter?_eq_some_iff {level inner : Tier} :
    level.tighter? = some inner ↔ level.Over inner := by
  constructor
  · intro below
    cases level <;> cases below <;> constructor
  · intro binds
    cases binds <;> rfl

theorem Tier.tighter?_eq_none_iff {level : Tier} : level.tighter? = none ↔ level = .bitwise := by
  cases level <;> decide

theorem Statement.isBraced_iff {statement : Statement} :
    statement.isBraced = true ↔ statement.EndsInBrace := by
  constructor
  · intro braced
    cases statement with
    | expression value => cases braced
    | branch condition yes no => exact .branch
    | loop condition body => exact .loop
  · intro ends
    cases ends <;> rfl

/-- The stream with some tokens in front of it. -/
def TokenStream.prepend (rest : TokenStream) : List Spanned → TokenStream
  | [] => rest
  | first :: others => .next first (rest.prepend others)

namespace TokenStream

@[simp] theorem prepend_nil (rest : TokenStream) : rest.prepend [] = rest := rfl

@[simp] theorem prepend_cons (rest : TokenStream) (first : Spanned) (others : List Spanned) :
    rest.prepend (first :: others) = .next first (rest.prepend others) := rfl

@[simp] theorem prepend_append (rest : TokenStream) (ts us : List Spanned) :
    rest.prepend (ts ++ us) = (rest.prepend us).prepend ts := by
  induction ts with
  | nil => rfl
  | cons first others ih => rw [List.cons_append, prepend_cons, prepend_cons, ih]

@[simp] theorem length_prepend (rest : TokenStream) (ts : List Spanned) :
    (rest.prepend ts).length = ts.length + rest.length := by
  induction ts with
  | nil => simp
  | cons first others ih =>
    rw [prepend_cons, length, ih, List.length_cons]
    omega

end TokenStream

namespace Builtin

theorem ofName?_name (function : Builtin) : ofName? function.name = some function := by
  cases function <;> rfl

/-- A name finds the built-in function that has it. -/
theorem ofName?_eq_some_iff (name : String) (function : Builtin) :
    ofName? name = some function ↔ function.name = name := by
  constructor
  · intro found
    have named := List.find?_some found
    exact eq_of_beq named
  · rintro rfl
    exact ofName?_name function

end Builtin

namespace Parser

theorem bind_ok {ε α β : Type} {first : Except ε α} {next : α → Except ε β} {result : β}
    (success : (first >>= next) = .ok result) :
    ∃ value, first = .ok value ∧ next value = .ok result := by
  cases first with
  | error error => cases success
  | ok value => exact ⟨value, rfl, success⟩

/-- The tree of a call is the one that the grammar gives it. -/
theorem callTree_iff (caseSensitive : Bool) (name : String) (args : List Expr) (tree : Expr) :
    CallTree caseSensitive name args tree ↔ tree = callOf caseSensitive name args := by
  unfold callOf builtin?
  constructor
  · rintro (named | unnamed)
    · rw [(Builtin.ofName?_eq_some_iff _ _).2 named]
    · cases found : Builtin.ofName? (foldName caseSensitive name) with
      | none => rfl
      | some function => exact absurd ((Builtin.ofName?_eq_some_iff _ _).1 found) (unnamed function)
  · rintro rfl
    split
    · next function found => exact .builtin ((Builtin.ofName?_eq_some_iff _ _).1 found)
    · next missing =>
      refine .other fun function named => ?_
      rw [(Builtin.ofName?_eq_some_iff _ _).2 named] at missing
      cases missing

theorem constant?_eq_none_iff (name : String) : constant? name = none ↔ IsPlainName name := by
  unfold constant? IsPlainName
  split <;> simp_all

theorem constant?_eq_some {name : String} {n : Decimal} (found : constant? name = some n) :
    (name = "PI" ∧ n = Decimal.pi) ∨ (name = "E" ∧ n = Decimal.euler) := by
  unfold constant? at found
  split at found <;> simp_all

theorem expect_ok {symbol : Symbol} {kind : ParseErrorKind} {stream rest : TokenStream}
    (success : expect symbol kind stream = .ok rest) :
    ∃ start stop, stream = .next ⟨.symbol symbol, start, stop⟩ rest := by
  unfold expect at success
  split at success
  · next spanned after =>
    split at success
    · next equal =>
      obtain ⟨token, start, stop⟩ := spanned
      cases success
      exact ⟨start, stop, by rw [show token = .symbol symbol from equal]⟩
    · cases success
  · cases success

/-- What a reading function gives back stands at the head of its stream. -/
def Reads {α : Type} (read : TokenStream → Except Halt (α × TokenStream))
    (stands : α → List Spanned → Prop) : Prop :=
  ∀ ⦃stream rest : TokenStream⦄ ⦃tree : α⦄, read stream = .ok (tree, rest) →
    ∃ tokens, stream = rest.prepend tokens ∧ stands tree tokens

/-- The tokens of an index in brackets, or of none. -/
def IndexTokens (caseSensitive : Bool) : Option Expr → List Spanned → Prop
  | none, tokens => tokens = []
  | some tree, tokens => ∃ opening openingStop inner finish finishStop,
    tokens = ⟨.symbol .openBracket, opening, openingStop⟩ ::
      (inner ++ [⟨.symbol .closeBracket, finish, finishStop⟩]) ∧
    Derives caseSensitive (.expression tree) inner

/-- The tokens of arguments, at least one, and of the parenthesis behind them. -/
def ClosedArguments (caseSensitive : Bool) (trees : List Expr) (tokens : List Spanned) : Prop :=
  ∃ inner finish finishStop, tokens = inner ++ [⟨.symbol .closeParen, finish, finishStop⟩] ∧
    Derives caseSensitive (.arguments trees) inner

/-- The tokens of any number of arguments, and of the parenthesis behind them. -/
def ArgumentTokens (caseSensitive : Bool) (trees : List Expr) (tokens : List Spanned) : Prop :=
  (trees = [] ∧ ∃ finish finishStop, tokens = [⟨.symbol .closeParen, finish, finishStop⟩]) ∨
    ClosedArguments caseSensitive trees tokens

/-- The functions that read expressions are right with the given steps. -/
structure ExpressionsSound (caseSensitive : Bool) (steps : Nat) : Prop where
  expression : Reads (expression caseSensitive steps)
    fun tree => Derives caseSensitive (.expression tree)
  tier : ∀ level, Reads (tier caseSensitive steps level)
    fun tree => Derives caseSensitive (.tier level tree)
  operand : ∀ level, Reads (operand caseSensitive steps level)
    fun tree => Derives caseSensitive (.operand level tree)
  /-- The tokens of a chain go on a phrase of the tier that ends in the left operand. -/
  chain : ∀ level left ts, Derives caseSensitive (.tier level left) ts →
    Reads (chain caseSensitive steps level left)
      fun tree us => Derives caseSensitive (.tier level tree) (ts ++ us)
  unary : Reads (unary caseSensitive steps) fun tree => Derives caseSensitive (.unary tree)
  substitution : Reads (substitution caseSensitive steps)
    fun tree => Derives caseSensitive (.substitution tree)
  primary : Reads (primary caseSensitive steps) fun tree => Derives caseSensitive (.primary tree)
  index : Reads (index caseSensitive steps) (IndexTokens caseSensitive)
  arguments : Reads (arguments caseSensitive steps) (ArgumentTokens caseSensitive)
  argumentsFrom : Reads (argumentsFrom caseSensitive steps) (ClosedArguments caseSensitive)

section Expressions

variable {caseSensitive : Bool} {steps : Nat}

theorem expressionsSound_zero : ExpressionsSound caseSensitive 0 := by
  constructor <;> intros <;> intro stream rest tree success <;> cases success

theorem expression_sound (ih : ExpressionsSound caseSensitive steps) :
    Reads (expression caseSensitive (steps + 1))
      fun tree => Derives caseSensitive (.expression tree) := by
  intro stream rest tree success
  unfold expression at success
  obtain ⟨⟨left, afterLeft⟩, read, continued⟩ := bind_ok success
  clear success
  obtain ⟨ts, rfl, first⟩ := ih.tier .logical read
  dsimp only at continued
  split at continued
  · next start stop afterSign =>
    split at continued
    · obtain ⟨⟨value, afterValue⟩, assigned, finished⟩ := bind_ok continued
      cases finished
      obtain ⟨us, rfl, second⟩ := ih.expression assigned
      exact ⟨ts ++ ⟨.symbol .assign, start, stop⟩ :: us, by simp, .assign first second⟩
    · cases continued
    · cases continued
  · cases continued
    exact ⟨ts, rfl, .loosest first⟩

theorem tier_sound (ih : ExpressionsSound caseSensitive steps) (level : Tier) :
    Reads (tier caseSensitive (steps + 1) level)
      fun tree => Derives caseSensitive (.tier level tree) := by
  intro stream rest tree success
  unfold tier at success
  obtain ⟨⟨left, afterLeft⟩, read, chained⟩ := bind_ok success
  obtain ⟨ts, rfl, first⟩ := ih.operand level read
  obtain ⟨us, rfl, derived⟩ := ih.chain level left ts (.single first) chained
  exact ⟨ts ++ us, by simp, derived⟩

theorem operand_sound (ih : ExpressionsSound caseSensitive steps) (level : Tier) :
    Reads (operand caseSensitive (steps + 1) level)
      fun tree => Derives caseSensitive (.operand level tree) := by
  intro stream rest tree success
  unfold operand at success
  split at success
  · next inner below =>
    obtain ⟨ts, rfl, derived⟩ := ih.tier inner success
    exact ⟨ts, rfl, .tighter (Tier.tighter?_eq_some_iff.1 below) derived⟩
  · next below =>
    obtain ⟨ts, rfl, derived⟩ := ih.unary success
    obtain rfl := Tier.tighter?_eq_none_iff.1 below
    exact ⟨ts, rfl, .tightest derived⟩

theorem chain_sound (ih : ExpressionsSound caseSensitive steps) (level : Tier) (left : Expr)
    (ts : List Spanned) (first : Derives caseSensitive (.tier level left) ts) :
    Reads (chain caseSensitive (steps + 1) level left)
      fun tree us => Derives caseSensitive (.tier level tree) (ts ++ us) := by
  intro stream rest tree success
  unfold chain at success
  split at success
  · next symbol start stop after =>
    split at success
    · next op operator =>
      obtain ⟨⟨right, afterRight⟩, read, chained⟩ := bind_ok success
      obtain ⟨us, rfl, second⟩ := ih.operand level read
      -- what was read so far is the left operand of the rest of the chain
      obtain ⟨vs, rfl, derived⟩ := ih.chain level (.binary op left right) _
        (.join first (Tier.operator?_eq_some_iff.1 operator) second) chained
      exact ⟨⟨.symbol symbol, start, stop⟩ :: (us ++ vs), by simp, by simpa using derived⟩
    · cases success
      exact ⟨[], rfl, by simpa using first⟩
  · cases success
    exact ⟨[], rfl, by simpa using first⟩

theorem unary_sound (ih : ExpressionsSound caseSensitive steps) :
    Reads (unary caseSensitive (steps + 1))
      fun tree => Derives caseSensitive (.unary tree) := by
  intro stream rest tree success
  unfold unary at success
  split at success
  · obtain ⟨⟨inner, after⟩, read, finished⟩ := bind_ok success
    cases finished
    obtain ⟨ts, rfl, derived⟩ := ih.unary read
    exact ⟨_ :: ts, rfl, .not derived⟩
  · obtain ⟨ts, rfl, derived⟩ := ih.substitution success
    exact ⟨ts, rfl, .plain derived⟩

theorem substitution_sound (ih : ExpressionsSound caseSensitive steps) :
    Reads (substitution caseSensitive (steps + 1))
      fun tree => Derives caseSensitive (.substitution tree) := by
  intro stream rest tree success
  unfold substitution at success
  obtain ⟨⟨first, after⟩, read, continued⟩ := bind_ok success
  clear success
  obtain ⟨ts, rfl, derived⟩ := ih.primary read
  dsimp only at continued
  split at continued
  · next start stop afterSign =>
    obtain ⟨⟨fallback, afterFallback⟩, replaced, finished⟩ := bind_ok continued
    cases finished
    obtain ⟨us, rfl, second⟩ := ih.substitution replaced
    exact ⟨ts ++ ⟨.symbol .question, start, stop⟩ :: us, by simp, .substitute derived second⟩
  · cases continued
    exact ⟨ts, rfl, .atom derived⟩

theorem negativeNumber_sound {start : Position} {stop : Nat} {stream rest : TokenStream}
    {tree : Expr}
    (success : negativeNumber ⟨.symbol .minus, start, stop⟩ stream = .ok (tree, rest)) :
    ∃ tokens, stream = rest.prepend tokens ∧
      Derives caseSensitive (.primary tree) (⟨.symbol .minus, start, stop⟩ :: tokens) := by
  unfold negativeNumber at success
  dsimp only at success
  split at success
  · cases success
  · cases success
  · next spanned after =>
    split at success
    · next n isNumber =>
      split at success
      · next touching =>
        cases success
        obtain ⟨token, digits, digitsStop⟩ := spanned
        cases isNumber
        exact ⟨[⟨.number n, digits, digitsStop⟩], rfl, .negative touching⟩
      · cases success
    · cases success

/-- A variable behind the keyword that makes it local. -/
theorem localVariable_sound {name : String} {index : Option Expr} {tokens : List Spanned}
    {word start : Position} {wordStop stop : Nat}
    (indexed : IndexTokens caseSensitive index tokens) :
    Derives caseSensitive (.primary (.variable ⟨name, index, true⟩))
      (⟨.keyword .varWord, word, wordStop⟩ :: ⟨.name name, start, stop⟩ :: tokens) := by
  cases index with
  | none =>
    cases indexed
    exact .localVariable
  | some tree =>
    obtain ⟨opening, openingStop, inner, finish, finishStop, rfl, derived⟩ := indexed
    exact .localElement derived

theorem variable_sound {name : String} {index : Option Expr} {tokens : List Spanned}
    {start : Position} {stop : Nat} (plain : IsPlainName name)
    (indexed : IndexTokens caseSensitive index tokens) :
    Derives caseSensitive (.primary (.variable ⟨name, index, false⟩))
      (⟨.name name, start, stop⟩ :: tokens) := by
  cases index with
  | none =>
    cases indexed
    exact .named plain
  | some tree =>
    obtain ⟨opening, openingStop, inner, finish, finishStop, rfl, derived⟩ := indexed
    exact .element plain derived

theorem call_sound {name : String} {args : List Expr} {tokens : List Spanned}
    {start opening : Position} {stop openingStop : Nat} (plain : IsPlainName name)
    (given : ArgumentTokens caseSensitive args tokens) :
    Derives caseSensitive (.primary (callOf caseSensitive name args))
      (⟨.name name, start, stop⟩ :: ⟨.symbol .openParen, opening, openingStop⟩ :: tokens) := by
  have called := (callTree_iff caseSensitive name args _).2 rfl
  rcases given with ⟨rfl, finish, finishStop, rfl⟩ | ⟨inner, finish, finishStop, rfl, derived⟩
  · exact .callNone plain called
  · exact .callSome plain derived called

/-- A name that opens a primary phrase, and what follows it. -/
theorem named_sound (ih : ExpressionsSound caseSensitive steps) {name : String} {start : Position}
    {stop : Nat} {stream rest : TokenStream} {tree : Expr}
    (success : primary caseSensitive (steps + 1) (.next ⟨.name name, start, stop⟩ stream) =
      .ok (tree, rest)) :
    ∃ tokens, stream = rest.prepend tokens ∧
      Derives caseSensitive (.primary tree) (⟨.name name, start, stop⟩ :: tokens) := by
  unfold primary at success
  dsimp only at success
  split at success
  · next n found =>
    cases success
    rcases constant?_eq_some found with ⟨rfl, rfl⟩ | ⟨rfl, rfl⟩
    · exact ⟨[], rfl, .pi⟩
    · exact ⟨[], rfl, .euler⟩
  · next missing =>
    have plain := (constant?_eq_none_iff name).1 missing
    split at success
    · obtain ⟨⟨args, after⟩, read, finished⟩ := bind_ok success
      cases finished
      obtain ⟨ts, rfl, given⟩ := ih.arguments read
      exact ⟨_ :: ts, rfl, call_sound plain given⟩
    · obtain ⟨⟨index, after⟩, read, finished⟩ := bind_ok success
      cases finished
      obtain ⟨ts, rfl, indexed⟩ := ih.index read
      exact ⟨ts, rfl, variable_sound plain indexed⟩

theorem primary_sound (ih : ExpressionsSound caseSensitive steps) :
    Reads (primary caseSensitive (steps + 1))
      fun tree => Derives caseSensitive (.primary tree) := by
  intro stream rest tree success
  rcases stream with place | error | ⟨⟨token, start, stop⟩, after⟩
  · cases success
  · cases success
  cases token with
  | number n =>
    cases success
    exact ⟨[⟨.number n, start, stop⟩], rfl, .number⟩
  | text s =>
    cases success
    exact ⟨[⟨.text s, start, stop⟩], rfl, .text⟩
  | boolean b =>
    cases success
    exact ⟨[⟨.boolean b, start, stop⟩], rfl, .boolean⟩
  | null =>
    cases success
    exact ⟨[⟨.null, start, stop⟩], rfl, .null⟩
  | name name =>
    obtain ⟨ts, rfl, derived⟩ := named_sound ih success
    exact ⟨_ :: ts, rfl, derived⟩
  | keyword word =>
    cases word with
    | varWord =>
      unfold primary at success
      dsimp only at success
      split at success
      · obtain ⟨⟨index, afterIndex⟩, read, finished⟩ := bind_ok success
        cases finished
        obtain ⟨ts, rfl, indexed⟩ := ih.index read
        exact ⟨_ :: _ :: ts, rfl, localVariable_sound indexed⟩
      · cases success
    | _ => cases success
  | symbol sign =>
    cases sign with
    | minus =>
      obtain ⟨ts, rfl, derived⟩ := negativeNumber_sound success
      exact ⟨_ :: ts, rfl, derived⟩
    | openParen =>
      unfold primary at success
      dsimp only at success
      obtain ⟨⟨inner, afterInner⟩, read, continued⟩ := bind_ok success
      clear success
      obtain ⟨remaining, closed, finished⟩ := bind_ok continued
      cases finished
      obtain ⟨finish, finishStop, rfl⟩ := expect_ok closed
      obtain ⟨ts, rfl, derived⟩ := ih.expression read
      exact ⟨⟨.symbol .openParen, start, stop⟩ ::
        (ts ++ [⟨.symbol .closeParen, finish, finishStop⟩]), by simp, .parenthesized derived⟩
    | _ => cases success

theorem index_sound (ih : ExpressionsSound caseSensitive steps) :
    Reads (index caseSensitive (steps + 1)) (IndexTokens caseSensitive) := by
  intro stream rest tree success
  unfold index at success
  split at success
  · next opening openingStop afterOpening =>
    obtain ⟨⟨inner, after⟩, read, continued⟩ := bind_ok success
    clear success
    obtain ⟨remaining, closed, finished⟩ := bind_ok continued
    cases finished
    obtain ⟨finish, finishStop, rfl⟩ := expect_ok closed
    obtain ⟨ts, rfl, derived⟩ := ih.expression read
    exact ⟨⟨.symbol .openBracket, opening, openingStop⟩ ::
      (ts ++ [⟨.symbol .closeBracket, finish, finishStop⟩]), by simp,
      opening, openingStop, ts, finish, finishStop, rfl, derived⟩
  · cases success
    exact ⟨[], rfl, rfl⟩

theorem arguments_sound (ih : ExpressionsSound caseSensitive steps) :
    Reads (arguments caseSensitive (steps + 1)) (ArgumentTokens caseSensitive) := by
  intro stream rest tree success
  unfold arguments at success
  split at success
  · cases success
    exact ⟨[_], rfl, .inl ⟨rfl, _, _, rfl⟩⟩
  · obtain ⟨ts, rfl, closed⟩ := ih.argumentsFrom success
    exact ⟨ts, rfl, .inr closed⟩

theorem argumentsFrom_sound (ih : ExpressionsSound caseSensitive steps) :
    Reads (argumentsFrom caseSensitive (steps + 1)) (ClosedArguments caseSensitive) := by
  intro stream rest tree success
  unfold argumentsFrom at success
  obtain ⟨⟨arg, after⟩, read, continued⟩ := bind_ok success
  clear success
  obtain ⟨ts, rfl, first⟩ := ih.expression read
  dsimp only at continued
  split at continued
  · next start stop afterComma =>
    obtain ⟨⟨others, afterOthers⟩, readOthers, finished⟩ := bind_ok continued
    cases finished
    obtain ⟨us, rfl, inner, finish, finishStop, rfl, derived⟩ := ih.argumentsFrom readOthers
    exact ⟨ts ++ ⟨.symbol .comma, start, stop⟩ :: (inner ++ [⟨.symbol .closeParen, finish,
      finishStop⟩]), by simp, ts ++ ⟨.symbol .comma, start, stop⟩ :: inner, finish, finishStop,
      by simp, .argument first derived⟩
  · next finish finishStop afterParen =>
    cases continued
    exact ⟨ts ++ [⟨.symbol .closeParen, finish, finishStop⟩], by simp, ts, finish, finishStop,
      rfl, .lastArgument first⟩
  all_goals cases continued

theorem expressionsSound (caseSensitive : Bool) (steps : Nat) :
    ExpressionsSound caseSensitive steps := by
  induction steps with
  | zero => exact expressionsSound_zero
  | succ steps ih =>
    exact ⟨expression_sound ih, tier_sound ih, operand_sound ih, chain_sound ih, unary_sound ih,
      substitution_sound ih, primary_sound ih, index_sound ih, arguments_sound ih,
      argumentsFrom_sound ih⟩

end Expressions

theorem parameters_sound {stream rest : TokenStream} {params : List String}
    (success : parameters stream = .ok (params, rest)) :
    ∃ tokens, stream = rest.prepend tokens ∧ NameList params tokens := by
  fun_induction parameters stream generalizing params rest with
  | case1 param start stop comma commaStop after ih =>
    obtain ⟨⟨others, afterOthers⟩, read, finished⟩ := bind_ok success
    cases finished
    obtain ⟨ts, rfl, listed⟩ := ih read
    exact ⟨⟨.name param, start, stop⟩ :: ⟨.symbol .comma, comma, commaStop⟩ :: ts, rfl,
      .more listed⟩
  | case2 param start stop after _ =>
    cases success
    exact ⟨[⟨.name param, start, stop⟩], rfl, .last⟩
  | case3 stream => cases success

theorem parametersOrNone_sound : Reads parametersOrNone Parameters := by
  intro stream rest params success
  unfold parametersOrNone at success
  split at success
  · cases success
    exact ⟨[], rfl, .inl ⟨rfl, rfl⟩⟩
  · obtain ⟨ps, rfl, names⟩ := parameters_sound success
    exact ⟨ps, rfl, .inr names⟩

/-- The tokens between the keyword of a declaration and its body. -/
def HeadTokens (name : String) (params : List String) (tokens : List Spanned) : Prop :=
  ∃ ps start stop opening openingStop closing closingStop brace braceStop,
    tokens = ⟨.name name, start, stop⟩ :: ⟨.symbol .openParen, opening, openingStop⟩ ::
      (ps ++ [⟨.symbol .closeParen, closing, closingStop⟩,
        ⟨.symbol .openBrace, brace, braceStop⟩]) ∧ Parameters params ps

theorem functionHead_sound : Reads functionHead fun head => HeadTokens head.1 head.2 := by
  intro stream rest head success
  unfold functionHead at success
  split at success
  · next name start stop after =>
    obtain ⟨afterOpening, opened, continued⟩ := bind_ok success
    clear success
    obtain ⟨⟨params, afterParams⟩, listed, continued⟩ := bind_ok continued
    obtain ⟨afterClosing, closed, continued⟩ := bind_ok continued
    obtain ⟨afterBrace, braced, finished⟩ := bind_ok continued
    cases finished
    obtain ⟨opening, openingStop, rfl⟩ := expect_ok opened
    obtain ⟨closing, closingStop, rfl⟩ := expect_ok closed
    obtain ⟨brace, braceStop, rfl⟩ := expect_ok braced
    obtain ⟨ps, rfl, declared⟩ := parametersOrNone_sound listed
    exact ⟨⟨.name name, start, stop⟩ :: ⟨.symbol .openParen, opening, openingStop⟩ ::
      (ps ++ [⟨.symbol .closeParen, closing, closingStop⟩,
        ⟨.symbol .openBrace, brace, braceStop⟩]), by simp,
      ps, start, stop, opening, openingStop, closing, closingStop, brace, braceStop, rfl, declared⟩
  · cases success

theorem condition_sound (caseSensitive : Bool) (steps : Nat) :
    Reads (condition caseSensitive steps)
      fun tree => Derives caseSensitive (.condition tree) := by
  intro stream rest tree success
  unfold condition at success
  obtain ⟨afterOpening, opened, continued⟩ := bind_ok success
  clear success
  obtain ⟨⟨inner, afterInner⟩, read, continued⟩ := bind_ok continued
  obtain ⟨remaining, closed, finished⟩ := bind_ok continued
  cases finished
  obtain ⟨start, stop, rfl⟩ := expect_ok opened
  obtain ⟨finish, finishStop, rfl⟩ := expect_ok closed
  obtain ⟨ts, rfl, derived⟩ := (expressionsSound caseSensitive steps).expression read
  exact ⟨⟨.symbol .openParen, start, stop⟩ ::
    (ts ++ [⟨.symbol .closeParen, finish, finishStop⟩]), by simp, .condition derived⟩

/-- The functions that read statements are right with the given steps. -/
structure StatementsSound (caseSensitive : Bool) (steps : Nat) : Prop where
  block : ∀ allowed inBraces, Reads (block caseSensitive allowed inBraces steps)
    fun tree => Derives caseSensitive (.block allowed tree)
  statement : Reads (statement caseSensitive steps)
    fun tree => Derives caseSensitive (.statement tree)
  /-- The keyword of a conditional was taken off before. -/
  branch : Reads (branch caseSensitive steps) fun tree tokens => ∀ start stop,
    Derives caseSensitive (.conditional tree) (⟨.keyword .ifWord, start, stop⟩ :: tokens)
  braced : Reads (braced caseSensitive steps) fun trees => Derives caseSensitive (.braced trees)
  /-- The keyword of a declaration was taken off before. -/
  function : Reads (function caseSensitive steps) fun tree tokens => ∀ start stop,
    Derives caseSensitive (.function tree) (⟨.keyword .functionWord, start, stop⟩ :: tokens)

section Statements

variable {caseSensitive : Bool} {steps : Nat}

theorem statementsSound_zero : StatementsSound caseSensitive 0 := by
  constructor <;> intros <;> intro stream rest tree success <;> cases success

/-- Where a statement may end, the tokens of the rest of its block keep their distance. -/
theorem separated_of_endsStatement {allowed inBraces : Bool} {tree : Block} {rest : TokenStream}
    {tokens : List Spanned} (derived : Derives caseSensitive (.block allowed tree) tokens)
    (ended : endsStatement inBraces (rest.prepend tokens) = true) : Separated tokens := by
  cases tokens with
  | nil => trivial
  | cons first others =>
    obtain ⟨token, start, stop⟩ := first
    have opened := derived.opens
    rw [TokenStream.prepend_cons] at ended
    unfold endsStatement at ended
    split at ended
    · next equal => cases equal
    · next equal =>
      cases equal
      rfl
    · -- a closing brace opens no phrase
      next equal =>
      cases equal
      cases allowed <;> cases opened
    · cases ended

theorem block_sound (ih : StatementsSound caseSensitive steps) (allowed inBraces : Bool) :
    Reads (block caseSensitive allowed inBraces (steps + 1))
      fun tree => Derives caseSensitive (.block allowed tree) := by
  intro stream rest tree success
  unfold block at success
  split at success
  · cases success
    exact ⟨[], rfl, .done⟩
  · next start stop after =>
    obtain ⟨ts, rfl, derived⟩ := ih.block allowed inBraces success
    exact ⟨⟨.symbol .semicolon, start, stop⟩ :: ts, rfl, .separator derived⟩
  · next start stop after =>
    split at success
    · next permitted =>
      obtain ⟨⟨declared, afterDeclared⟩, read, continued⟩ := bind_ok success
      clear success
      obtain ⟨⟨⟨functions, statements⟩, afterOthers⟩, readOthers, finished⟩ := bind_ok continued
      cases finished
      obtain ⟨us, rfl, derived⟩ := ih.block allowed inBraces readOthers
      obtain ⟨ts, rfl, first⟩ := ih.function read
      subst permitted
      exact ⟨⟨.keyword .functionWord, start, stop⟩ :: ts ++ us, by simp,
        .declaration (first start stop) derived⟩
    · cases success
  · split at success
    · cases success
      exact ⟨[], rfl, .done⟩
    · obtain ⟨⟨first, afterFirst⟩, read, continued⟩ := bind_ok success
      clear success
      dsimp only at continued
      split at continued
      · next apart =>
        obtain ⟨⟨⟨functions, statements⟩, afterOthers⟩, readOthers, finished⟩ := bind_ok continued
        cases finished
        obtain ⟨us, rfl, derived⟩ := ih.block allowed inBraces readOthers
        obtain ⟨ts, rfl, head⟩ := ih.statement read
        have separated : first.EndsInBrace ∨ Separated us := by
          rw [Bool.or_eq_true] at apart
          exact apart.imp Statement.isBraced_iff.1 (separated_of_endsStatement derived)
        exact ⟨ts ++ us, by simp, .item head separated derived⟩
      · cases continued

theorem statement_sound (ih : StatementsSound caseSensitive steps) :
    Reads (statement caseSensitive (steps + 1))
      fun tree => Derives caseSensitive (.statement tree) := by
  intro stream rest tree success
  unfold statement at success
  split at success
  · next start stop after =>
    obtain ⟨ts, rfl, derived⟩ := ih.branch success
    exact ⟨⟨.keyword .ifWord, start, stop⟩ :: ts, rfl, .conditional (derived start stop)⟩
  · next start stop after =>
    obtain ⟨⟨test, afterTest⟩, asked, continued⟩ := bind_ok success
    clear success
    obtain ⟨⟨body, afterBody⟩, repeated, finished⟩ := bind_ok continued
    cases finished
    obtain ⟨us, rfl, second⟩ := ih.braced repeated
    obtain ⟨ts, rfl, first⟩ := condition_sound caseSensitive steps asked
    exact ⟨⟨.keyword .whileWord, start, stop⟩ :: (ts ++ us), by simp, .loop first second⟩
  · obtain ⟨⟨value, after⟩, read, finished⟩ := bind_ok success
    cases finished
    obtain ⟨ts, rfl, derived⟩ := (expressionsSound caseSensitive steps).expression read
    exact ⟨ts, rfl, .evaluated derived⟩

theorem branch_sound (ih : StatementsSound caseSensitive steps) :
    Reads (branch caseSensitive (steps + 1)) fun tree tokens => ∀ start stop,
      Derives caseSensitive (.conditional tree) (⟨.keyword .ifWord, start, stop⟩ :: tokens) := by
  intro stream rest tree success
  unfold branch at success
  obtain ⟨⟨test, afterTest⟩, asked, continued⟩ := bind_ok success
  clear success
  obtain ⟨⟨yes, afterYes⟩, held, branched⟩ := bind_ok continued
  clear continued
  obtain ⟨us, rfl, second⟩ := ih.braced held
  obtain ⟨ts, rfl, first⟩ := condition_sound caseSensitive steps asked
  dsimp only at branched
  split at branched
  · next word wordStop inner innerStop after =>
    obtain ⟨⟨no, afterNo⟩, otherwise, finished⟩ := bind_ok branched
    cases finished
    obtain ⟨vs, rfl, third⟩ := ih.branch otherwise
    exact ⟨ts ++ (us ++ ⟨.keyword .elseWord, word, wordStop⟩ ::
      ⟨.keyword .ifWord, inner, innerStop⟩ :: vs), by simp,
      fun _ _ => .branchElseIf first second (third inner innerStop)⟩
  · next word wordStop after _ =>
    obtain ⟨⟨no, afterNo⟩, otherwise, finished⟩ := bind_ok branched
    cases finished
    obtain ⟨vs, rfl, third⟩ := ih.braced otherwise
    exact ⟨ts ++ (us ++ ⟨.keyword .elseWord, word, wordStop⟩ :: vs), by simp,
      fun _ _ => .branchElse first second third⟩
  · cases branched
    exact ⟨ts ++ us, by simp, fun _ _ => .branch first second⟩

theorem braced_sound (ih : StatementsSound caseSensitive steps) :
    Reads (braced caseSensitive (steps + 1))
      fun trees => Derives caseSensitive (.braced trees) := by
  intro stream rest trees success
  unfold braced at success
  obtain ⟨afterOpening, opened, continued⟩ := bind_ok success
  clear success
  obtain ⟨⟨⟨functions, statements⟩, afterInner⟩, read, continued⟩ := bind_ok continued
  obtain ⟨remaining, closed, finished⟩ := bind_ok continued
  cases finished
  obtain ⟨start, stop, rfl⟩ := expect_ok opened
  obtain ⟨finish, finishStop, rfl⟩ := expect_ok closed
  obtain ⟨ts, rfl, derived⟩ := ih.block false true read
  exact ⟨⟨.symbol .openBrace, start, stop⟩ ::
    (ts ++ [⟨.symbol .closeBrace, finish, finishStop⟩]), by simp, .braced derived⟩

theorem function_sound (ih : StatementsSound caseSensitive steps) :
    Reads (function caseSensitive (steps + 1)) fun tree tokens => ∀ start stop,
      Derives caseSensitive (.function tree)
        (⟨.keyword .functionWord, start, stop⟩ :: tokens) := by
  intro stream rest tree success
  unfold function at success
  obtain ⟨⟨⟨name, params⟩, afterHead⟩, headed, continued⟩ := bind_ok success
  clear success
  obtain ⟨⟨body, afterBody⟩, read, continued⟩ := bind_ok continued
  obtain ⟨remaining, closed, finished⟩ := bind_ok continued
  cases finished
  obtain ⟨finish, finishStop, rfl⟩ := expect_ok closed
  obtain ⟨ts, rfl, derived⟩ := ih.block true true read
  obtain ⟨hs, rfl, ps, nameStart, nameStop, opening, openingStop, closing, closingStop, brace,
    braceStop, rfl, declared⟩ := functionHead_sound headed
  exact ⟨⟨.name name, nameStart, nameStop⟩ :: ⟨.symbol .openParen, opening, openingStop⟩ ::
    (ps ++ ⟨.symbol .closeParen, closing, closingStop⟩ ::
      ⟨.symbol .openBrace, brace, braceStop⟩ ::
      (ts ++ [⟨.symbol .closeBrace, finish, finishStop⟩])), by simp,
    fun _ _ => .function declared derived⟩

theorem statementsSound (caseSensitive : Bool) (steps : Nat) :
    StatementsSound caseSensitive steps := by
  induction steps with
  | zero => exact statementsSound_zero
  | succ steps ih =>
    exact ⟨block_sound ih, statement_sound ih, branch_sound ih, braced_sound ih, function_sound ih⟩

end Statements
end Parser
end RuleScript
