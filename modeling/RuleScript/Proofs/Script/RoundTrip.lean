import Mathlib
import RuleScript.Proofs.Script.Likeness
import RuleScript.Proofs.Script.Spells

/-!
The text of a tree is read as the tree again. The printer puts binary operations in parentheses and
nothing else, so its text stands for the tree only where no assignment, negation or substitution is
an operand that would need them (`Expr.isFaithful`). There the text spells the tree, and the parser
finds the one tree that the grammar allows. A number comes back as the same number, perhaps in
another representation.
-/
namespace RuleScript

/-- Literals of one value: the same literal, or numbers that are the same. -/
inductive Value.SameLiteral : Value → Value → Prop
  | same (value : Value) : SameLiteral value value
  | number {n m : Decimal} (numbers : n.sameNumber m = true) :
      SameLiteral (.number n) (.number m)

/-- The same tree, with numbers compared by value. -/
def Likeness.byValue : Likeness where
  Literal := Value.SameLiteral
  Variable name name' := name = name'
  Call _ name name' := name = name'

def Expr.isAssign : Expr → Bool
  | .assign _ _ => true
  | _ => false

def Expr.isNot : Expr → Bool
  | .not _ => true
  | _ => false

def Expr.isSubstitute : Expr → Bool
  | .substitute _ _ => true
  | _ => false

mutual

/-- Nowhere in the tree is an assignment an operand of an operation, a negation an operand of a
substitution, or a substitution the first operand of another, and texts have only characters that
stand for themselves between quotes. -/
def Expr.isFaithful : Expr → Bool
  | .literal (.text s) => s.toList.all Lexeme.isQuotable
  | .literal _ => true
  | .variable target => target.isFaithful
  | .assign target value => target.isFaithful && value.isFaithful
  | .binary _ left right =>
    !left.isAssign && !right.isAssign && left.isFaithful && right.isFaithful
  | .not operand => !operand.isAssign && operand.isFaithful
  | .builtin _ args => faithfulAll args
  | .call _ args => faithfulAll args
  | .substitute primary fallback =>
    !primary.isAssign && !primary.isNot && !primary.isSubstitute && !fallback.isAssign &&
      !fallback.isNot && primary.isFaithful && fallback.isFaithful

def VarRef.isFaithful : VarRef → Bool
  | ⟨_, index, _⟩ => faithfulIndex index

def faithfulIndex : Option Expr → Bool
  | none => true
  | some index => index.isFaithful

def faithfulAll : List Expr → Bool
  | [] => true
  | arg :: rest => arg.isFaithful && faithfulAll rest

end

/-- The tightest phrase that the printed text of the tree is. -/
def Expr.phrase : Expr → Phrase
  | .assign target value => .expression (.assign target value)
  | .not operand => .unary (.not operand)
  | .substitute primary fallback => .substitution (.substitute primary fallback)
  | tree => .primary tree

namespace Expr.Like

variable {like : Likeness} {tree tree' : Expr} (trees : Expr.Like like tree tree')
include trees

theorem isAssign_eq : tree'.isAssign = tree.isAssign := by
  cases trees <;> rfl

theorem isNot_eq : tree'.isNot = tree.isNot := by
  cases trees <;> rfl

theorem isSubstitute_eq : tree'.isSubstitute = tree.isSubstitute := by
  cases trees <;> rfl

end Expr.Like

namespace Spells

variable {caseSensitive : Bool} {tree : Expr} {text : List Char}

theorem asPrimary (spelled : Spells caseSensitive tree.phrase text)
    (noAssign : tree.isAssign = false) (noNot : tree.isNot = false)
    (noSubstitute : tree.isSubstitute = false) : Spells caseSensitive (.primary tree) text := by
  cases tree with
  | assign => cases noAssign
  | not => cases noNot
  | substitute => cases noSubstitute
  | _ => exact spelled

theorem asSubstitution (spelled : Spells caseSensitive tree.phrase text)
    (noAssign : tree.isAssign = false) (noNot : tree.isNot = false) :
    Spells caseSensitive (.substitution tree) text := by
  cases substitutes : tree.isSubstitute with
  | false => exact (spelled.asPrimary noAssign noNot substitutes).mono .atom
  | true =>
    cases tree with
    | substitute => exact spelled
    | _ => cases substitutes

theorem asUnary (spelled : Spells caseSensitive tree.phrase text)
    (noAssign : tree.isAssign = false) : Spells caseSensitive (.unary tree) text := by
  cases negates : tree.isNot with
  | false => exact (spelled.asSubstitution noAssign negates).mono .plain
  | true =>
    cases tree with
    | not => exact spelled
    | _ => cases negates

theorem asExpression (spelled : Spells caseSensitive tree.phrase text) :
    Spells caseSensitive (.expression tree) text := by
  cases assigns : tree.isAssign with
  | false => exact (spelled.asUnary assigns).mono .expressionOf
  | true =>
    cases tree with
    | assign => exact spelled
    | _ => cases assigns

end Spells

/-- The names of the built-in functions are names. -/
theorem Builtin.isName (function : Builtin) : Lexeme.IsName function.name := by
  cases function <;> exact ⟨by decide, by decide⟩

theorem Builtin.isPlainName (function : Builtin) : IsPlainName function.name := by
  cases function <;> exact ⟨by decide, by decide⟩

/-- A literal that is no array is read as a literal of its value. -/
theorem Value.spells_again (caseSensitive : Bool) (value : Value) (single : value.isArray = false)
    (faithful : (Expr.literal value).isFaithful = true) :
    ∃ again, value.SameLiteral again ∧
      Spells caseSensitive (.primary (.literal again)) (Expr.literal value).display.toList := by
  cases value with
  | null => exact ⟨_, .same _, .keyword rfl rfl ⟨_, _, rfl, by decide⟩ fun _ _ => .null⟩
  | boolean b =>
    cases b with
    | true => exact ⟨_, .same _, .keyword rfl rfl ⟨_, _, rfl, by decide⟩ fun _ _ => .boolean⟩
    | false => exact ⟨_, .same _, .keyword rfl rfl ⟨_, _, rfl, by decide⟩ fun _ _ => .boolean⟩
  | number n =>
    have written : (Expr.literal (.number n)).display.toList = n.toChars := String.toList_ofList
    rw [written]
    -- the sign is a token of its own, so the text with a sign has two
    obtain ⟨text, m, numeral, ⟨shown, same⟩ | ⟨shown, same⟩⟩ := n.toChars_cases
    · exact ⟨_, .number same, shown ▸ .number numeral⟩
    · exact ⟨_, .number same, shown ▸ .negative numeral⟩
  | text s =>
    refine ⟨_, .same _, ?_⟩
    have written : (Expr.literal (.text s)).display.toList = '"' :: (s.toList ++ ['"']) := by
      simp [Expr.display, Value.quoteIfText, Value.display]
    rw [written]
    exact .quoted faithful
  | array => cases single

/-- The text of a call, from the text of its arguments. -/
theorem Spells.call {caseSensitive : Bool} {name : String} (word : Lexeme.IsName name)
    (plain : IsPlainName name) {args again : List Expr} {tree : Expr}
    (alike : ArgumentsLike .byValue args again)
    (inner : args ≠ [] →
      Spells caseSensitive (.arguments again) (", ".intercalate (displayAll args)).toList)
    (called : CallTree caseSensitive name again tree) :
    Spells caseSensitive (.primary tree)
      (name ++ "(" ++ ", ".intercalate (displayAll args) ++ ")").toList := by
  simp only [String.toList_append, List.append_assoc]
  cases alike with
  | nil => exact .callNone word plain called
  | cons => exact .callSome word plain (inner nofun) called

mutual

/-- The text of a tree spells a tree like it. -/
theorem Expr.spells_again (caseSensitive : Bool) : (tree : Expr) → tree.Readable caseSensitive →
    tree.isFaithful = true → ∃ again, Expr.Like .byValue tree again ∧
      Spells caseSensitive again.phrase tree.display.toList
  | .literal value, readable, faithful => by
    obtain ⟨again, same, spelled⟩ := value.spells_again caseSensitive readable faithful
    exact ⟨_, .literal same, spelled⟩
  | .variable target, readable, faithful => by
    obtain ⟨again, alike, spelled⟩ := target.spells_again caseSensitive readable faithful
    exact ⟨_, .variable alike, spelled⟩
  | .assign target value, readable, faithful => by
    simp only [Expr.isFaithful, Bool.and_eq_true] at faithful
    obtain ⟨target', targets, first⟩ := target.spells_again caseSensitive readable.1 faithful.1
    obtain ⟨value', values, second⟩ := value.spells_again caseSensitive readable.2 faithful.2
    refine ⟨_, .assign targets values, ?_⟩
    have whole := first.assign second.asExpression
    simpa [Expr.display, Expr.phrase] using whole
  | .binary op left right, readable, faithful => by
    simp only [Expr.isFaithful, Bool.and_eq_true, Bool.not_eq_true'] at faithful
    obtain ⟨⟨⟨leftPlain, rightPlain⟩, leftFaithful⟩, rightFaithful⟩ := faithful
    obtain ⟨left', lefts, first⟩ := left.spells_again caseSensitive readable.1 leftFaithful
    obtain ⟨right', rights, second⟩ := right.spells_again caseSensitive readable.2 rightFaithful
    refine ⟨_, .binary lefts rights, ?_⟩
    have whole := (Spells.joined op (first.asUnary (lefts.isAssign_eq.trans leftPlain))
      (second.asUnary (rights.isAssign_eq.trans rightPlain))).parenthesized
    simpa [Expr.display, Expr.phrase] using whole
  | .not operand, readable, faithful => by
    simp only [Expr.isFaithful, Bool.and_eq_true, Bool.not_eq_true'] at faithful
    obtain ⟨operand', operands, inner⟩ := operand.spells_again caseSensitive readable faithful.2
    refine ⟨_, .not operands, ?_⟩
    have whole := (inner.asUnary (operands.isAssign_eq.trans faithful.1)).not
    simpa [Expr.display, Expr.phrase] using whole
  | .builtin function args, readable, faithful => by
    obtain ⟨args', alike, inner⟩ := arguments_spell_again caseSensitive args readable.2 faithful
    exact ⟨_, .builtin alike, .call function.isName function.isPlainName alike inner
      (.builtin readable.1.symm)⟩
  | .call name args, ⟨word, plain, unnamed, readable⟩, faithful => by
    obtain ⟨args', alike, inner⟩ := arguments_spell_again caseSensitive args readable faithful
    exact ⟨_, .call rfl alike, .call word plain alike inner (.other unnamed)⟩
  | .substitute primary fallback, readable, faithful => by
    simp only [Expr.isFaithful, Bool.and_eq_true, Bool.not_eq_true'] at faithful
    obtain ⟨⟨⟨⟨⟨⟨noAssign, noNot⟩, noSubstitute⟩, noAssign'⟩, noNot'⟩, faithful⟩, faithful'⟩ :=
      faithful
    obtain ⟨primary', primaries, first⟩ := primary.spells_again caseSensitive readable.1 faithful
    obtain ⟨fallback', fallbacks, second⟩ := fallback.spells_again caseSensitive readable.2 faithful'
    refine ⟨_, .substitute primaries fallbacks, ?_⟩
    have whole := (first.asPrimary (primaries.isAssign_eq.trans noAssign)
      (primaries.isNot_eq.trans noNot) (primaries.isSubstitute_eq.trans noSubstitute)).substitute
      (second.asSubstitution (fallbacks.isAssign_eq.trans noAssign')
        (fallbacks.isNot_eq.trans noNot'))
    simpa [Expr.display, Expr.phrase] using whole

theorem VarRef.spells_again (caseSensitive : Bool) : (target : VarRef) →
    target.Readable caseSensitive → target.isFaithful = true →
    ∃ again, VarRef.Like .byValue target again ∧
      Spells caseSensitive (.primary (.variable again)) target.display.toList
  | ⟨name, none, true⟩, ⟨word, _, _⟩, _ => by
    refine ⟨_, .mk rfl .none, ?_⟩
    simpa [VarRef.display, displayIndex] using Spells.localVariable word
  | ⟨name, none, false⟩, ⟨word, plain, _⟩, _ => by
    refine ⟨_, .mk rfl .none, ?_⟩
    simpa [VarRef.display, displayIndex] using Spells.named word (plain rfl)
  | ⟨name, some index, true⟩, ⟨word, _, readable⟩, faithful => by
    obtain ⟨index', indices, inner⟩ := index.spells_again caseSensitive readable faithful
    refine ⟨_, .mk rfl (.some indices), ?_⟩
    simpa [VarRef.display, displayIndex] using Spells.localElement word inner.asExpression
  | ⟨name, some index, false⟩, ⟨word, plain, readable⟩, faithful => by
    obtain ⟨index', indices, inner⟩ := index.spells_again caseSensitive readable faithful
    refine ⟨_, .mk rfl (.some indices), ?_⟩
    simpa [VarRef.display, displayIndex] using Spells.element word (plain rfl) inner.asExpression

theorem arguments_spell_again (caseSensitive : Bool) : (args : List Expr) →
    readableAll caseSensitive args → faithfulAll args = true →
    ∃ again, ArgumentsLike .byValue args again ∧ (args ≠ [] →
      Spells caseSensitive (.arguments again) (", ".intercalate (displayAll args)).toList)
  | [], _, _ => ⟨[], .nil, fun some => absurd rfl some⟩
  | [arg], readable, faithful => by
    simp only [faithfulAll, Bool.and_eq_true] at faithful
    obtain ⟨again, alike, spelled⟩ := arg.spells_again caseSensitive readable.1 faithful.1
    refine ⟨_, .cons alike .nil, fun _ => ?_⟩
    simpa [displayAll] using spelled.asExpression.mono .lastArgument
  | arg :: next :: rest, readable, faithful => by
    rw [faithfulAll, Bool.and_eq_true] at faithful
    obtain ⟨again, alike, first⟩ := arg.spells_again caseSensitive readable.1 faithful.1
    obtain ⟨others, likewise, second⟩ :=
      arguments_spell_again caseSensitive (next :: rest) readable.2 faithful.2
    refine ⟨_, .cons alike likewise, fun _ => ?_⟩
    have whole := first.asExpression.argument (second nofun)
    simpa [displayAll, String.intercalate_cons_cons] using whole

end

/-- An expression that was read is printed as a text that is read as the expression again. -/
theorem Expr.parse_display (caseSensitive : Bool) (source : String) (tree : Expr)
    (parsed : Expr.parse caseSensitive source = .ok tree) (faithful : tree.isFaithful = true) :
    ∃ again, Expr.parse caseSensitive tree.display = .ok again ∧
      Expr.Like .byValue tree again := by
  obtain ⟨again, alike, spelled⟩ :=
    tree.spells_again caseSensitive (Expr.readable_of_parse parsed) faithful
  -- the text stands alone, with nothing in front of it and nothing behind it
  obtain ⟨tokens, cut, derived⟩ := spelled.asExpression.cuts .start [] rfl
  exact ⟨again, (Expr.parse_eq_ok_iff ..).2 ⟨tokens, _, cut.ofSource, derived⟩, alike⟩

/-- A local element is set to the first of three values that is not null. -/
def firstOfThree : Expr :=
  .assign
    ⟨"E", some (.literal (.number ⟨false, 1, 0, Decimal.one.coefficient_lt, by decide⟩)), true⟩
    (.substitute (.variable ⟨"A", none, false⟩)
      (.substitute (.call "b" [.literal (.text "x")])
        (.literal (.number ⟨true, 250, 2, by decide, by decide⟩))))

/-- The last value is printed as `-2.5`, and that is the same number. -/
theorem Expr.parse_display_firstOfThree :
    Expr.parse true "var E[1] = A ? b(\"x\") ? -2.50" = .ok firstOfThree ∧
      firstOfThree.display = "var E[1] = A?b(\"x\")?-2.5" ∧
      ∃ again, Expr.parse true firstOfThree.display = .ok again ∧
        Expr.Like .byValue firstOfThree again := by
  have parsed : Expr.parse true "var E[1] = A ? b(\"x\") ? -2.50" = .ok firstOfThree := by cbv
  exact ⟨parsed, by decide +kernel, Expr.parse_display true _ firstOfThree parsed (by decide)⟩

end RuleScript
