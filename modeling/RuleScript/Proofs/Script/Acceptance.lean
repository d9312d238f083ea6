import RuleScript.Proofs.Script.Completeness

/-!
The parser accepts exactly the scripts of the grammar, each with its tree. The parser works on a
stream that may break off where no token can be read; it accepts a stream only after it has seen
its end, so an accepted source is one that can be cut into tokens all through.
-/
namespace RuleScript

/-- A stream that does not break off is its tokens and the end behind them. -/
theorem TokenStream.tokens_eq_ok_iff (stream : TokenStream) (tokens : List Spanned)
    (place : Position) :
    stream.tokens = .ok (tokens, place) ↔ stream = (TokenStream.finish place).prepend tokens := by
  induction stream generalizing tokens with
  | finish found => cases tokens <;> simp [TokenStream.tokens, eq_comm]
  | broken error => cases tokens <;> simp [TokenStream.tokens]
  | next first rest others =>
    unfold TokenStream.tokens
    constructor
    · intro success
      obtain ⟨⟨found, last⟩, read, continued⟩ := Parser.bind_ok success
      cases continued
      simp [(others found).1 read]
    · intro whole
      cases tokens with
      | nil => cases whole
      | cons head tail =>
        rw [TokenStream.prepend_cons, TokenStream.next.injEq] at whole
        rw [(others tail).2 whole.2, whole.1]
        rfl

namespace Parser

theorem outcome_eq_ok_iff {α : Type} (stream : TokenStream) (result : Except Halt α) (tree : α) :
    outcome stream result = .ok tree ↔ result = .ok tree := by
  cases result with
  | ok found => simp [outcome]
  | error halt => cases halt <;> simp [outcome]

/-- A whole stream is read as a block exactly when it is the tokens of that block. -/
theorem whole_block_eq_ok_iff (caseSensitive : Bool) (stream : TokenStream) (tree : Block) :
    whole (block caseSensitive true false) stream = .ok tree ↔
      ∃ tokens place, stream = (TokenStream.finish place).prepend tokens ∧
        Derives caseSensitive (.block true tree) tokens := by
  unfold whole
  constructor
  · intro success
    obtain ⟨⟨found, rest⟩, read, continued⟩ := bind_ok success
    obtain ⟨tokens, rfl, derived⟩ := (statementsSound caseSensitive _).block _ _ read
    dsimp only at continued
    split at continued
    · next place =>
      cases continued
      exact ⟨tokens, place, rfl, derived⟩
    · cases continued
  · rintro ⟨tokens, place, rfl, derived⟩
    have finished := block_finishes_whole caseSensitive true false
      ((TokenStream.finish place).prepend tokens)
    have atEnd : EndsBlock false (.finish place) := trivial
    rw [accepts_of_derives derived false _ _ atEnd finished, ok_bind]
    rfl

end Parser

/-- A script is accepted with a tree exactly when its source, or the one that stands in for a blank
source, can be cut into tokens and the grammar derives the tree from them. -/
theorem Program.parse_eq_ok_iff_derives (settings : Settings) (source : String)
    (program : Program) :
    Program.parse settings source = .ok program ↔
      program.source = effectiveSource settings source ∧
        ∃ tokens place,
          (TokenStream.ofSource (effectiveSource settings source)).tokens = .ok (tokens, place) ∧
            Derives settings.caseSensitive (.block true program.body) tokens := by
  have accepted : ∀ body, Block.parse settings.caseSensitive (effectiveSource settings source) =
      .ok body ↔ ∃ tokens place,
        (TokenStream.ofSource (effectiveSource settings source)).tokens = .ok (tokens, place) ∧
          Derives settings.caseSensitive (.block true body) tokens := by
    intro body
    unfold Block.parse
    simp only [Parser.outcome_eq_ok_iff, Parser.whole_block_eq_ok_iff,
      TokenStream.tokens_eq_ok_iff]
  unfold Program.parse
  constructor
  · intro success
    obtain ⟨body, read, continued⟩ := Parser.bind_ok success
    cases continued
    exact ⟨rfl, (accepted body).1 read⟩
  · rintro ⟨same, derivable⟩
    obtain ⟨found, body⟩ := program
    subst same
    simp only [(accepted body).2 derivable]
    rfl

/-- A script with a declaration, a chain of one tier, an operator of each tier, and statements with
and without a separator behind them. -/
def Program.mixed : Program where
  source := "function f(a){f=a-b-c}if(a){b=c&&d+e*g^h<i|j}!z?f(z);z"
  body := ⟨[⟨"f", ["a"], ⟨[], [.expression (.assign ⟨"f", none, false⟩
        (.binary .subtract (.binary .subtract (named "a") (named "b")) (named "c")))]⟩⟩],
    [.branch (named "a") [.expression (.assign ⟨"b", none, false⟩
        (.binary .and (named "c") (.binary .add (named "d") (.binary .multiply (named "e")
          (.binary .power (named "g") (.binary .less (named "h")
            (.binary .bitOr (named "i") (named "j"))))))))] none,
      .expression (.not (.substitute (named "z") (.call "f" [named "z"]))),
      .expression (named "z")]⟩
where
  named (name : String) : Expr := .variable ⟨name, none, false⟩

/-- The tokens of the script. All but the first touch the ones before them. -/
def Program.mixedTokens : List Spanned :=
  ⟨.keyword .functionWord, ⟨1, 1, 0⟩, 8⟩ :: touching 9
    [(.name "f", 1), (.symbol .openParen, 1), (.name "a", 1), (.symbol .closeParen, 1),
      (.symbol .openBrace, 1), (.name "f", 1), (.symbol .assign, 1), (.name "a", 1),
      (.symbol .minus, 1), (.name "b", 1), (.symbol .minus, 1), (.name "c", 1),
      (.symbol .closeBrace, 1), (.keyword .ifWord, 2), (.symbol .openParen, 1), (.name "a", 1),
      (.symbol .closeParen, 1), (.symbol .openBrace, 1), (.name "b", 1), (.symbol .assign, 1),
      (.name "c", 1), (.symbol .andAnd, 2), (.name "d", 1), (.symbol .plus, 1), (.name "e", 1),
      (.symbol .star, 1), (.name "g", 1), (.symbol .caret, 1), (.name "h", 1), (.symbol .less, 1),
      (.name "i", 1), (.symbol .bar, 1), (.name "j", 1), (.symbol .closeBrace, 1),
      (.symbol .bang, 1), (.name "z", 1), (.symbol .question, 1), (.name "f", 1),
      (.symbol .openParen, 1), (.name "z", 1), (.symbol .closeParen, 1), (.symbol .semicolon, 1),
      (.name "z", 1)]
where
  touching (start : Nat) : List (Token × Nat) → List Spanned
    | [] => []
    | (token, width) :: rest =>
      ⟨token, ⟨1, start + 1, start⟩, start + width⟩ :: touching (start + width) rest

/-- The script is read as its tree, and the grammar derives the tree from its tokens. -/
theorem Program.parse_eq_ok_iff_derives_mixed :
    Program.parse (.standard 0) mixed.source = .ok mixed ∧
      ∃ tokens place, (TokenStream.ofSource mixed.source).tokens = .ok (tokens, place) ∧
        Derives true (.block true mixed.body) tokens := by
  have shown : effectiveSource (.standard 0) mixed.source = mixed.source := by decide +kernel
  have cut : TokenStream.ofSource mixed.source =
      (TokenStream.finish ⟨1, 55, 54⟩).prepend mixedTokens := by
    decide +kernel
  have body : Block.parse true mixed.source = .ok mixed.body := by
    unfold Block.parse
    rw [cut]
    rfl
  have read : Program.parse (.standard 0) mixed.source = .ok mixed := by
    unfold Program.parse
    simp only [shown]
    rw [show (Settings.standard 0).caseSensitive = true from rfl, body]
    rfl
  have derived := ((parse_eq_ok_iff_derives (.standard 0) mixed.source mixed).1 read).2
  rw [shown] at derived
  exact ⟨read, derived⟩

end RuleScript
