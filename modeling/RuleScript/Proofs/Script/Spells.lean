import RuleScript.Proofs.Script.Readable

/-!
Texts that stand for phrases. A text spells a phrase when it is cut into tokens that the grammar
derives the phrase from, whatever stands in front of it and behind it, as long as what follows
cannot run on from its last token (`Spells`). One lemma for each way to build a phrase says how its
text is built from the texts of its parts.
-/
namespace RuleScript

namespace Derives

variable {caseSensitive : Bool} {tree : Expr} {ts : List Spanned}

/-- A phrase of any tier is one of the loosest. -/
theorem loosestTier {level : Tier} (derived : Derives caseSensitive (.tier level tree) ts) :
    Derives caseSensitive (.tier .logical tree) ts := by
  have additive (inner : Derives caseSensitive (.tier .additive tree) ts) :
      Derives caseSensitive (.tier .logical tree) ts := .single (.tighter .logical inner)
  have multiplicative (inner : Derives caseSensitive (.tier .multiplicative tree) ts) :
      Derives caseSensitive (.tier .logical tree) ts :=
    additive (.single (.tighter .additive inner))
  have power (inner : Derives caseSensitive (.tier .power tree) ts) :
      Derives caseSensitive (.tier .logical tree) ts :=
    multiplicative (.single (.tighter .multiplicative inner))
  have comparison (inner : Derives caseSensitive (.tier .comparison tree) ts) :
      Derives caseSensitive (.tier .logical tree) ts := power (.single (.tighter .power inner))
  cases level with
  | logical => exact derived
  | additive => exact additive derived
  | multiplicative => exact multiplicative derived
  | power => exact power derived
  | comparison => exact comparison derived
  | bitwise => exact comparison (.single (.tighter .comparison derived))

/-- A phrase without operators is an operand of every tier. -/
theorem operandOf (derived : Derives caseSensitive (.unary tree) ts) (level : Tier) :
    Derives caseSensitive (.operand level tree) ts := by
  have bitwise : Derives caseSensitive (.operand .bitwise tree) ts := .tightest derived
  have comparison : Derives caseSensitive (.operand .comparison tree) ts :=
    .tighter .comparison (.single bitwise)
  have power : Derives caseSensitive (.operand .power tree) ts :=
    .tighter .power (.single comparison)
  have multiplicative : Derives caseSensitive (.operand .multiplicative tree) ts :=
    .tighter .multiplicative (.single power)
  have additive : Derives caseSensitive (.operand .additive tree) ts :=
    .tighter .additive (.single multiplicative)
  cases level with
  | logical => exact .tighter .logical (.single additive)
  | additive => exact additive
  | multiplicative => exact multiplicative
  | power => exact power
  | comparison => exact comparison
  | bitwise => exact bitwise

theorem expressionOf (derived : Derives caseSensitive (.unary tree) ts) :
    Derives caseSensitive (.expression tree) ts :=
  .loosest (.single (derived.operandOf .logical))

end Derives

namespace Operator

/-- The symbol that the printer writes for an operator. -/
def symbol : Operator → Symbol
  | .or => .orOr
  | .and => .andAnd
  | .add => .plus
  | .subtract => .minus
  | .multiply => .star
  | .divide => .slash
  | .power => .caret
  | .equal => .equal
  | .notEqual => .notEqual
  | .less => .less
  | .greater => .greater
  | .lessEqual => .lessEqual
  | .greaterEqual => .greaterEqual
  | .bitAnd => .ampersand
  | .bitOr => .bar

/-- The tier of an operator. -/
def tier : Operator → Tier
  | .or | .and => .logical
  | .add | .subtract => .additive
  | .multiply | .divide => .multiplicative
  | .power => .power
  | .equal | .notEqual | .less | .greater | .lessEqual | .greaterEqual => .comparison
  | .bitAnd | .bitOr => .bitwise

theorem spelling_symbol (op : Operator) : op.symbol.spelling = op.spelling := by
  cases op <;> rfl

theorem joins_symbol (op : Operator) : op.tier.Joins op.symbol op := by
  cases op <;> constructor

end Operator

/-- Characters that may stand behind an expression in the text of a tree. -/
def phraseEnds : List Char := [' ', ')', ']', ',', '?']

/-- The text goes on as it may behind an expression. -/
def endsPhrase : List Char → Bool
  | [] => true
  | c :: _ => phraseEnds.contains c

/-- What may stand behind an expression goes on neither a name nor a number. -/
theorem endsPhrase_stops {rest : List Char} (ends : endsPhrase rest = true) :
    ∀ c ∈ rest.head?, Lexeme.continuesName c = false ∧ Lexeme.isNumberChar c = false ∧
      Lexeme.startsName c = false := by
  have all : (phraseEnds.all fun c => !Lexeme.continuesName c && !Lexeme.isNumberChar c &&
      !Lexeme.startsName c) = true := by decide
  intro c first
  cases rest with
  | nil => cases first
  | cons other _ =>
    cases first
    have stops := List.all_eq_true.1 all c (List.contains_iff_mem.1 ends)
    simpa [and_assoc] using stops

/-- The text does not open with an equals sign, and wherever it stands in front of what may follow
an expression, it is cut into tokens of the phrase. -/
structure Spells (caseSensitive : Bool) (phrase : Phrase) (text : List Char) : Prop where
  opens : ∃ c others, text = c :: others ∧ c ≠ '='
  cuts (place : Position) (rest : List Char) (ends : endsPhrase rest = true) :
    ∃ tokens, TokenStream.Cuts place text rest tokens ∧ Derives caseSensitive phrase tokens

namespace Spells

open TokenStream Lexeme

variable {caseSensitive : Bool} {text : List Char}

theorem mono {phrase wider : Phrase} (spelled : Spells caseSensitive phrase text)
    (widen : ∀ {tokens}, Derives caseSensitive phrase tokens →
      Derives caseSensitive wider tokens) : Spells caseSensitive wider text := by
  refine ⟨spelled.opens, fun place rest ends => ?_⟩
  obtain ⟨tokens, cut, derived⟩ := spelled.cuts place rest ends
  exact ⟨tokens, cut, widen derived⟩

/-- A phrase of one token. -/
theorem ofToken {phrase : Phrase} {token : Token}
    (opens : ∃ c others, text = c :: others ∧ c ≠ '=')
    (whole : ∀ rest, endsPhrase rest = true → IsToken token text rest)
    (derived : ∀ start stop, Derives caseSensitive phrase [⟨token, start, stop⟩]) :
    Spells caseSensitive phrase text :=
  ⟨opens, fun _ rest ends => ⟨_, .token (whole rest ends), derived _ _⟩⟩

theorem keyword {phrase : Phrase} {token : Token} {word : String}
    (isWord : isWord word.toList = true) (read : ofWord word = token)
    (opens : ∃ c others, word.toList = c :: others ∧ c ≠ '=')
    (derived : ∀ start stop, Derives caseSensitive phrase [⟨token, start, stop⟩]) :
    Spells caseSensitive phrase word.toList := by
  refine ofToken opens (fun rest ends => ?_) derived
  have whole := isToken_word isWord fun c first => (endsPhrase_stops ends c first).1
  rwa [String.ofList_toList, read] at whole

theorem number {n : Decimal} (numeral : Decimal.IsNumeral text n) :
    Spells caseSensitive (.primary (.literal (.number n))) text := by
  refine ofToken ?_ (fun rest ends => ?_) fun _ _ => .number
  · obtain ⟨c, others, rfl, digit⟩ := numeral.opens
    refine ⟨c, others, rfl, ?_⟩
    rintro rfl
    cases digit
  · exact isToken_number numeral (fun c first => (endsPhrase_stops ends c first).2.1)
      fun c first => (endsPhrase_stops ends c first).2.2

/-- The digits touch the sign. -/
theorem negative {n : Decimal} (numeral : Decimal.IsNumeral text n) :
    Spells caseSensitive (.primary (.literal (.number n.neg))) (['-'] ++ text) := by
  refine ⟨⟨'-', text, rfl, by decide⟩, fun place rest ends => ?_⟩
  have digits : IsToken (.number n) text rest :=
    isToken_number numeral (fun c first => (endsPhrase_stops ends c first).2.1)
      fun c first => (endsPhrase_stops ends c first).2.2
  exact ⟨_, (Cuts.token (isToken_delimiter .minus trivial _)).append (.token digits),
    .negative rfl⟩

theorem quoted {s : String} (plain : s.toList.all isQuotable = true) :
    Spells caseSensitive (.primary (.literal (.text s))) ('"' :: (s.toList ++ ['"'])) := by
  refine ofToken ⟨'"', _, rfl, by decide⟩ (fun rest _ => ?_) fun _ _ => .text
  have whole := isToken_text (List.all_eq_true.1 plain) rest
  rwa [String.ofList_toList] at whole

end Spells

/-- A name opens with a character that may start one. -/
theorem Lexeme.IsName.opens {name : String} (named : Lexeme.IsName name) :
    ∃ c others, name.toList = c :: others ∧ c ≠ '=' := by
  have word := named.1
  cases all : name.toList with
  | nil =>
    rw [all] at word
    cases word
  | cons c others =>
    refine ⟨c, others, rfl, ?_⟩
    rintro rfl
    rw [all] at word
    simp [Lexeme.isWord, show Lexeme.startsName '=' = false by decide] at word

theorem opens_append {text : List Char} (opens : ∃ c others, text = c :: others ∧ c ≠ '=')
    (more : List Char) : ∃ c others, text ++ more = c :: others ∧ c ≠ '=' := by
  obtain ⟨c, others, rfl, clear⟩ := opens
  exact ⟨c, others ++ more, rfl, clear⟩

namespace Spells

open TokenStream Lexeme

variable {caseSensitive : Bool} {text more : List Char} {name : String}

theorem named (word : IsName name) (plain : IsPlainName name) :
    Spells caseSensitive (.primary (.variable ⟨name, none, false⟩)) name.toList :=
  ofToken word.opens (fun _ ends => isToken_name word fun c first =>
    (endsPhrase_stops ends c first).1) fun _ _ => .named plain

/-- A name in front of an opening bracket or parenthesis, or of a space. -/
theorem cutName (word : IsName name) (place : Position) {c : Char} (rest : List Char)
    (stops : continuesName c = false) :
    Cuts place name.toList (c :: rest) [⟨.name name, place, (place.past name.toList).offset⟩] :=
  .token (isToken_name word fun _ first => by cases first; exact stops)

/-- The word for a local variable, and the space behind it. -/
theorem cutVar (place : Position) (rest : List Char) :
    Cuts place ("var".toList ++ [' ']) rest
      [⟨.keyword .varWord, place, (place.past "var".toList).offset⟩] := by
  have word : IsToken (ofWord (String.ofList "var".toList)) "var".toList (' ' :: rest) :=
    isToken_word (by decide) fun _ first => by cases first; decide
  exact (Cuts.token word).append .space

/-- A phrase between a pair of delimiters. -/
theorem enclosed {phrase : Phrase} (inner : Spells caseSensitive phrase text)
    (opening closing : Symbol) (delimits : Delimits opening ∧ Delimits closing) (place : Position)
    (rest : List Char) (ends : endsPhrase (closing.spelling.toList ++ rest) = true) :
    ∃ ts start stop start' stop', Cuts place
        (opening.spelling.toList ++ (text ++ closing.spelling.toList)) rest
        (⟨.symbol opening, start, stop⟩ :: (ts ++ [⟨.symbol closing, start', stop'⟩])) ∧
      Derives caseSensitive phrase ts := by
  obtain ⟨ts, cut, derived⟩ := inner.cuts (place.past opening.spelling.toList) _ ends
  exact ⟨ts, _, _, _, _, (Cuts.token (isToken_delimiter opening delimits.1 _)).append
    (cut.append (.token (isToken_delimiter closing delimits.2 rest))), derived⟩

theorem parenthesized {tree : Expr} (inner : Spells caseSensitive (.expression tree) text) :
    Spells caseSensitive (.primary tree) (['('] ++ (text ++ [')'])) := by
  refine ⟨⟨'(', _, rfl, by decide⟩, fun place rest _ => ?_⟩
  obtain ⟨_, _, _, _, _, cut, derived⟩ :=
    inner.enclosed .openParen .closeParen ⟨trivial, trivial⟩ place rest rfl
  exact ⟨_, cut, .parenthesized derived⟩

theorem element (word : IsName name) (plain : IsPlainName name) {index : Expr}
    (inner : Spells caseSensitive (.expression index) text) :
    Spells caseSensitive (.primary (.variable ⟨name, some index, false⟩))
      (name.toList ++ (['['] ++ (text ++ [']']))) := by
  refine ⟨opens_append word.opens _, fun place rest _ => ?_⟩
  obtain ⟨_, _, _, _, _, cut, derived⟩ := inner.enclosed .openBracket .closeBracket
    ⟨trivial, trivial⟩ (place.past name.toList) rest rfl
  exact ⟨_, (cutName word place _ rfl).append cut, .element plain derived⟩

theorem localVariable (word : IsName name) :
    Spells caseSensitive (.primary (.variable ⟨name, none, true⟩))
      (("var".toList ++ [' ']) ++ name.toList) := by
  refine ⟨⟨'v', _, rfl, by decide⟩, fun place rest ends => ?_⟩
  have named : IsToken (.name name) name.toList rest :=
    isToken_name word fun c first => (endsPhrase_stops ends c first).1
  exact ⟨_, (cutVar place _).append (.token named), .localVariable⟩

theorem localElement (word : IsName name) {index : Expr}
    (inner : Spells caseSensitive (.expression index) text) :
    Spells caseSensitive (.primary (.variable ⟨name, some index, true⟩))
      (("var".toList ++ [' ']) ++ (name.toList ++ (['['] ++ (text ++ [']'])))) := by
  refine ⟨⟨'v', _, rfl, by decide⟩, fun place rest _ => ?_⟩
  obtain ⟨_, _, _, _, _, cut, derived⟩ := inner.enclosed .openBracket .closeBracket
    ⟨trivial, trivial⟩ ((place.past ("var".toList ++ [' '])).past name.toList) rest rfl
  exact ⟨_, (cutVar place _).append ((cutName word _ _ rfl).append cut), .localElement derived⟩

/-- Two operands with an operator between them. -/
theorem joined (op : Operator) {left right : Expr}
    (first : Spells caseSensitive (.unary left) text)
    (second : Spells caseSensitive (.unary right) more) :
    Spells caseSensitive (.expression (.binary op left right))
      (text ++ ([' '] ++ (op.spelling.toList ++ ([' '] ++ more)))) := by
  refine ⟨opens_append first.opens _, fun place rest ends => ?_⟩
  rw [← op.spelling_symbol]
  obtain ⟨ts, cut, derived⟩ := first.cuts place
    (([' '] ++ (op.symbol.spelling.toList ++ ([' '] ++ more))) ++ rest) rfl
  obtain ⟨us, cut', derived'⟩ := second.cuts
    ((((place.past text).past [' ']).past op.symbol.spelling.toList).past [' ']) rest ends
  have tier (start : Position) (stop : Nat) : Derives caseSensitive
      (.tier op.tier (.binary op left right)) (ts ++ ⟨.symbol op.symbol, start, stop⟩ :: us) :=
    .join (.single (derived.operandOf op.tier)) op.joins_symbol (derived'.operandOf op.tier)
  exact ⟨_, cut.append (Cuts.space.append ((Cuts.token (isToken_symbol op.symbol _)).append
    (Cuts.space.append cut'))), .loosest (tier _ _).loosestTier⟩

theorem not {operand : Expr} (inner : Spells caseSensitive (.unary operand) text) :
    Spells caseSensitive (.unary (.not operand)) (['!'] ++ text) := by
  refine ⟨⟨'!', text, rfl, by decide⟩, fun place rest ends => ?_⟩
  obtain ⟨ts, cut, derived⟩ := inner.cuts (place.past ['!']) rest ends
  -- an equals sign here would make one symbol of the two
  obtain ⟨c, others, rfl, clear⟩ := inner.opens
  exact ⟨_, (Cuts.token (isToken_bang clear _)).append cut, .not derived⟩

theorem substitute {primary fallback : Expr}
    (first : Spells caseSensitive (.primary primary) text)
    (second : Spells caseSensitive (.substitution fallback) more) :
    Spells caseSensitive (.substitution (.substitute primary fallback))
      (text ++ (['?'] ++ more)) := by
  refine ⟨opens_append first.opens _, fun place rest ends => ?_⟩
  obtain ⟨ts, cut, derived⟩ := first.cuts place ((['?'] ++ more) ++ rest) rfl
  obtain ⟨us, cut', derived'⟩ := second.cuts ((place.past text).past ['?']) rest ends
  exact ⟨_, cut.append ((Cuts.token (isToken_delimiter .question trivial _)).append cut'),
    .substitute derived derived'⟩

theorem assign {target : VarRef} {value : Expr}
    (first : Spells caseSensitive (.primary (.variable target)) text)
    (second : Spells caseSensitive (.expression value) more) :
    Spells caseSensitive (.expression (.assign target value))
      (text ++ ([' '] ++ (['='] ++ ([' '] ++ more)))) := by
  refine ⟨opens_append first.opens _, fun place rest ends => ?_⟩
  obtain ⟨ts, cut, derived⟩ := first.cuts place (([' '] ++ (['='] ++ ([' '] ++ more))) ++ rest) rfl
  obtain ⟨us, cut', derived'⟩ :=
    second.cuts ((((place.past text).past [' ']).past ['=']).past [' ']) rest ends
  have target := Derives.single ((Derives.plain (.atom derived)).operandOf .logical)
  exact ⟨_, cut.append (Cuts.space.append ((Cuts.token (isToken_symbol .assign _)).append
    (Cuts.space.append cut'))), .assign target derived'⟩

theorem callNone (word : IsName name) (plain : IsPlainName name) {tree : Expr}
    (called : CallTree caseSensitive name [] tree) :
    Spells caseSensitive (.primary tree) (name.toList ++ (['('] ++ [')'])) := by
  refine ⟨opens_append word.opens _, fun place rest _ => ?_⟩
  exact ⟨_, (cutName word place _ rfl).append
    ((Cuts.token (isToken_delimiter .openParen trivial _)).append
      (.token (isToken_delimiter .closeParen trivial rest))), .callNone plain called⟩

theorem callSome (word : IsName name) (plain : IsPlainName name) {args : List Expr} {tree : Expr}
    (inner : Spells caseSensitive (.arguments args) text)
    (called : CallTree caseSensitive name args tree) :
    Spells caseSensitive (.primary tree) (name.toList ++ (['('] ++ (text ++ [')']))) := by
  refine ⟨opens_append word.opens _, fun place rest _ => ?_⟩
  obtain ⟨_, _, _, _, _, cut, derived⟩ := inner.enclosed .openParen .closeParen
    ⟨trivial, trivial⟩ (place.past name.toList) rest rfl
  exact ⟨_, (cutName word place _ rfl).append cut, .callSome plain derived called⟩

theorem argument {arg : Expr} {others : List Expr}
    (first : Spells caseSensitive (.expression arg) text)
    (second : Spells caseSensitive (.arguments others) more) :
    Spells caseSensitive (.arguments (arg :: others)) (text ++ ([','] ++ ([' '] ++ more))) := by
  refine ⟨opens_append first.opens _, fun place rest ends => ?_⟩
  obtain ⟨ts, cut, derived⟩ := first.cuts place (([','] ++ ([' '] ++ more)) ++ rest) rfl
  obtain ⟨us, cut', derived'⟩ := second.cuts (((place.past text).past [',']).past [' ']) rest ends
  exact ⟨_, cut.append ((Cuts.token (isToken_delimiter .comma trivial _)).append
    (Cuts.space.append cut')), .argument derived derived'⟩

end Spells
end RuleScript
