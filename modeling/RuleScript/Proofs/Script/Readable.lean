import RuleScript.Proofs.Script.Acceptance
import RuleScript.Proofs.Text.Lowercase
import RuleScript.Proofs.Token.Scanning

/-!
The trees that a source can have. A source that is read as an expression is cut into tokens that the
grammar derives the tree from; so the names in the tree are words of the source, no call in it has
the name of a built-in function, and no literal is an array (`Expr.Readable`).
-/
namespace RuleScript

mutual

/-- The tree of some source: its names are names, and its literals are literals. -/
def Expr.Readable (caseSensitive : Bool) : Expr → Prop
  | .literal value => value.isArray = false
  | .variable target => target.Readable caseSensitive
  | .assign target value => target.Readable caseSensitive ∧ value.Readable caseSensitive
  | .binary _ left right => left.Readable caseSensitive ∧ right.Readable caseSensitive
  | .not operand => operand.Readable caseSensitive
  | .builtin function args =>
    foldName caseSensitive function.name = function.name ∧ readableAll caseSensitive args
  | .call name args =>
    Lexeme.IsName name ∧ IsPlainName name ∧
      (∀ function : Builtin, function.name ≠ foldName caseSensitive name) ∧
      readableAll caseSensitive args
  | .substitute primary fallback =>
    primary.Readable caseSensitive ∧ fallback.Readable caseSensitive

def VarRef.Readable (caseSensitive : Bool) : VarRef → Prop
  | ⟨name, index, isLocal⟩ =>
    Lexeme.IsName name ∧ (isLocal = false → IsPlainName name) ∧ readableIndex caseSensitive index

def readableIndex (caseSensitive : Bool) : Option Expr → Prop
  | none => True
  | some index => index.Readable caseSensitive

def readableAll (caseSensitive : Bool) : List Expr → Prop
  | [] => True
  | arg :: rest => arg.Readable caseSensitive ∧ readableAll caseSensitive rest

end

/-- The trees of expressions that belong to the phrase are readable. -/
def Phrase.Readable (caseSensitive : Bool) : Phrase → Prop
  | .expression tree | .tier _ tree | .operand _ tree | .unary tree | .substitution tree
  | .primary tree => tree.Readable caseSensitive
  | .arguments trees => readableAll caseSensitive trees
  | _ => True

/-- The names among the tokens are words that are no keywords. -/
def Named (tokens : List Spanned) : Prop :=
  ∀ spanned ∈ tokens, ∀ name, spanned.token = .name name → Lexeme.IsName name

namespace Named

variable {first : Spanned} {ts us : List Spanned}

theorem ofLeft (named : Named (ts ++ us)) : Named ts :=
  fun spanned among => named spanned (List.mem_append_left _ among)

theorem ofRight (named : Named (ts ++ us)) : Named us :=
  fun spanned among => named spanned (List.mem_append_right _ among)

theorem tail (named : Named (first :: ts)) : Named ts :=
  fun spanned among => named spanned (List.mem_cons_of_mem _ among)

theorem head {name : String} {start : Position} {stop : Nat}
    (named : Named (⟨.name name, start, stop⟩ :: ts)) : Lexeme.IsName name :=
  named _ List.mem_cons_self name rfl

end Named

theorem CallTree.readable {caseSensitive : Bool} {name : String} {args : List Expr} {tree : Expr}
    (called : CallTree caseSensitive name args tree) (word : Lexeme.IsName name)
    (plain : IsPlainName name) (arguments : readableAll caseSensitive args) :
    tree.Readable caseSensitive := by
  cases called with
  | builtin same =>
    refine ⟨?_, arguments⟩
    rw [same, foldName_foldName]
  | other unnamed => exact ⟨word, plain, unnamed, arguments⟩

/-- A tree that the grammar derives from the tokens of a source is readable. -/
theorem Derives.readable {caseSensitive : Bool} {phrase : Phrase} {tokens : List Spanned}
    (derived : Derives caseSensitive phrase tokens) (named : Named tokens) :
    phrase.Readable caseSensitive := by
  induction derived with
  | assign _ _ left right => exact ⟨left named.ofLeft, right named.ofRight.tail⟩
  | loosest _ inner => exact inner named
  | single _ inner => exact inner named
  | join _ _ _ first second => exact ⟨first named.ofLeft, second named.ofRight.tail⟩
  | tighter _ _ inner => exact inner named
  | tightest _ inner => exact inner named
  | not _ inner => exact inner named.tail
  | plain _ inner => exact inner named
  | substitute _ _ left right => exact ⟨left named.ofLeft, right named.ofRight.tail⟩
  | atom _ inner => exact inner named
  | parenthesized _ inner => exact inner named.tail.ofLeft
  | named plain => exact ⟨named.head, fun _ => plain, trivial⟩
  | element plain _ inner => exact ⟨named.head, fun _ => plain, inner named.tail.tail.ofLeft⟩
  | localVariable => exact ⟨named.tail.head, nofun, trivial⟩
  | localElement _ inner => exact ⟨named.tail.head, nofun, inner named.tail.tail.tail.ofLeft⟩
  | callNone plain called => exact called.readable named.head plain trivial
  | callSome plain _ called inner =>
    exact called.readable named.head plain (inner named.tail.tail.ofLeft)
  | lastArgument _ inner => exact ⟨inner named, trivial⟩
  | argument _ _ first rest => exact ⟨first named.ofLeft, rest named.ofRight.tail⟩
  | number | text | boolean | null | negative | pi | euler => rfl
  | _ => trivial

namespace Parser

/-- The steps of a whole stream are enough to read an expression from it. -/
theorem expression_finishes_whole (caseSensitive : Bool) (stream : TokenStream) :
    Finishes (expression caseSensitive (steps stream) stream) := by
  refine (expressionsFinish caseSensitive (steps stream)).expression stream ?_
  unfold steps
  omega

/-- A whole stream is read as an expression exactly when it is the tokens of that expression. -/
theorem whole_expression_eq_ok_iff (caseSensitive : Bool) (stream : TokenStream) (tree : Expr) :
    whole (expression caseSensitive) stream = .ok tree ↔
      ∃ tokens place, stream = (TokenStream.finish place).prepend tokens ∧
        Derives caseSensitive (.expression tree) tokens := by
  unfold whole
  constructor
  · intro success
    obtain ⟨⟨found, rest⟩, read, continued⟩ := bind_ok success
    obtain ⟨tokens, rfl, derived⟩ := (expressionsSound caseSensitive _).expression read
    dsimp only at continued
    split at continued
    · next place =>
      cases continued
      exact ⟨tokens, place, rfl, derived⟩
    · cases continued
  · rintro ⟨tokens, place, rfl, derived⟩
    have finished := expression_finishes_whole caseSensitive
      ((TokenStream.finish place).prepend tokens)
    have atEnd : Stops 8 (.finish place) := nofun
    rw [accepts_of_derives derived _ _ atEnd finished, ok_bind]
    rfl

end Parser

theorem Expr.parse_eq_ok_iff (caseSensitive : Bool) (source : String) (tree : Expr) :
    Expr.parse caseSensitive source = .ok tree ↔
      ∃ tokens place, TokenStream.ofSource source = (TokenStream.finish place).prepend tokens ∧
        Derives caseSensitive (.expression tree) tokens := by
  unfold Expr.parse
  simp only [Parser.outcome_eq_ok_iff, Parser.whole_expression_eq_ok_iff]

/-- What was read from a source is readable. -/
theorem Expr.readable_of_parse {caseSensitive : Bool} {source : String} {tree : Expr}
    (parsed : Expr.parse caseSensitive source = .ok tree) : tree.Readable caseSensitive := by
  obtain ⟨tokens, place, cut, derived⟩ := (parse_eq_ok_iff _ _ _).1 parsed
  exact derived.readable fun _ among _ named => TokenStream.isName_of_scan cut among named

end RuleScript
