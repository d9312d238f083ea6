import RuleScript.Script.Parser

/-!
The grammar of scripts. A phrase is a kind of text together with the tree it stands for, and
`Derives` says which tokens a phrase may consist of. Nothing here refers to how a text is read: the
table of operators (`Tier.Joins`, `Tier.Over`) is the grammar's own, trees are written with their
constructors, and the tokens of a phrase are those of its parts, one after the other, with no regard
to what follows.

A phrase is known by the token it opens with (`Derives.opens`), and only a block may be empty.
-/
namespace RuleScript

/-- The binary operators: the tier that each belongs to, and the symbols that it is written with. -/
inductive Tier.Joins : Tier → Symbol → Operator → Prop
  | or : Tier.Joins .logical .orOr .or
  | and : Tier.Joins .logical .andAnd .and
  | add : Tier.Joins .additive .plus .add
  | subtract : Tier.Joins .additive .minus .subtract
  | multiply : Tier.Joins .multiplicative .star .multiply
  | divide : Tier.Joins .multiplicative .slash .divide
  | power : Tier.Joins .power .caret .power
  | powerDollar : Tier.Joins .power .dollar .power
  | equal : Tier.Joins .comparison .equal .equal
  | notEqual : Tier.Joins .comparison .notEqual .notEqual
  | less : Tier.Joins .comparison .less .less
  | greater : Tier.Joins .comparison .greater .greater
  | lessEqual : Tier.Joins .comparison .lessEqual .lessEqual
  | greaterEqual : Tier.Joins .comparison .greaterEqual .greaterEqual
  | bitAnd : Tier.Joins .bitwise .ampersand .bitAnd
  | bitOr : Tier.Joins .bitwise .bar .bitOr

/-- The operands of the first tier are phrases of the second. From the loosest to the tightest. -/
inductive Tier.Over : Tier → Tier → Prop
  | logical : Tier.Over .logical .additive
  | additive : Tier.Over .additive .multiplicative
  | multiplicative : Tier.Over .multiplicative .power
  | power : Tier.Over .power .comparison
  | comparison : Tier.Over .comparison .bitwise

/-- The statement ends in a brace, so nothing has to part it from the next one. -/
inductive Statement.EndsInBrace : Statement → Prop
  | branch {condition : Expr} {yes : List Statement} {no : Option (List Statement)} :
      Statement.EndsInBrace (.branch condition yes no)
  | loop {condition : Expr} {body : List Statement} :
      Statement.EndsInBrace (.loop condition body)

/-- A kind of phrase, with its tree. -/
inductive Phrase
  /-- An assignment, or a phrase of the loosest tier. -/
  | expression (tree : Expr)
  | tier (level : Tier) (tree : Expr)
  | operand (level : Tier) (tree : Expr)
  | unary (tree : Expr)
  | substitution (tree : Expr)
  | primary (tree : Expr)
  /-- Expressions with commas between them, at least one. -/
  | arguments (trees : List Expr)
  /-- An expression in parentheses after a keyword. -/
  | condition (tree : Expr)
  /-- Statements in braces. -/
  | braced (trees : List Statement)
  | conditional (tree : Statement)
  | statement (tree : Statement)
  | function (tree : FunctionDef)
  | block (functionsAllowed : Bool) (tree : Block)

/-- The tree of a call. The name, as it is looked up, calls the built-in function that has it. -/
inductive CallTree (caseSensitive : Bool) (name : String) (args : List Expr) : Expr → Prop
  | builtin {function : Builtin} (named : function.name = foldName caseSensitive name) :
      CallTree caseSensitive name args (.builtin function args)
  | other (unnamed : ∀ function : Builtin, function.name ≠ foldName caseSensitive name) :
      CallTree caseSensitive name args (.call name args)

/-- The name is not one of those that stand for numbers. -/
def IsPlainName (name : String) : Prop :=
  name ≠ "PI" ∧ name ≠ "E"

/-- Names with commas between them, at least one. -/
inductive NameList : List String → List Spanned → Prop
  | last {name : String} {start : Position} {stop : Nat} :
      NameList [name] [⟨.name name, start, stop⟩]
  | more {name : String} {others : List String} {tokens : List Spanned} {start comma : Position}
      {stop commaStop : Nat} (rest : NameList others tokens) :
      NameList (name :: others)
        (⟨.name name, start, stop⟩ :: ⟨.symbol .comma, comma, commaStop⟩ :: tokens)

/-- The parameters of a declaration between its parentheses. -/
def Parameters (params : List String) (tokens : List Spanned) : Prop :=
  (params = [] ∧ tokens = []) ∨ NameList params tokens

/-- What a statement without braces must be followed by inside its block. -/
def Separated : List Spanned → Prop
  | [] => True
  | first :: _ => first.token = .symbol .semicolon

/-- The tokens that a phrase may consist of. -/
inductive Derives (caseSensitive : Bool) : Phrase → List Spanned → Prop
  | assign {target : VarRef} {value : Expr} {ts us : List Spanned} {start : Position} {stop : Nat}
      (left : Derives caseSensitive (.tier .logical (.variable target)) ts)
      (right : Derives caseSensitive (.expression value) us) :
      Derives caseSensitive (.expression (.assign target value))
        (ts ++ ⟨.symbol .assign, start, stop⟩ :: us)
  | loosest {tree : Expr} {ts : List Spanned}
      (inner : Derives caseSensitive (.tier .logical tree) ts) :
      Derives caseSensitive (.expression tree) ts
  | single {level : Tier} {tree : Expr} {ts : List Spanned}
      (inner : Derives caseSensitive (.operand level tree) ts) :
      Derives caseSensitive (.tier level tree) ts
  | join {level : Tier} {symbol : Symbol} {op : Operator} {left right : Expr}
      {ts us : List Spanned} {start : Position} {stop : Nat}
      (first : Derives caseSensitive (.tier level left) ts)
      (operator : level.Joins symbol op)
      (second : Derives caseSensitive (.operand level right) us) :
      Derives caseSensitive (.tier level (.binary op left right))
        (ts ++ ⟨.symbol symbol, start, stop⟩ :: us)
  | tighter {level inner : Tier} {tree : Expr} {ts : List Spanned}
      (below : level.Over inner) (phrase : Derives caseSensitive (.tier inner tree) ts) :
      Derives caseSensitive (.operand level tree) ts
  | tightest {tree : Expr} {ts : List Spanned} (phrase : Derives caseSensitive (.unary tree) ts) :
      Derives caseSensitive (.operand .bitwise tree) ts
  | not {tree : Expr} {ts : List Spanned} {start : Position} {stop : Nat}
      (inner : Derives caseSensitive (.unary tree) ts) :
      Derives caseSensitive (.unary (.not tree)) (⟨.symbol .bang, start, stop⟩ :: ts)
  | plain {tree : Expr} {ts : List Spanned}
      (inner : Derives caseSensitive (.substitution tree) ts) :
      Derives caseSensitive (.unary tree) ts
  | substitute {first fallback : Expr} {ts us : List Spanned} {start : Position} {stop : Nat}
      (left : Derives caseSensitive (.primary first) ts)
      (right : Derives caseSensitive (.substitution fallback) us) :
      Derives caseSensitive (.substitution (.substitute first fallback))
        (ts ++ ⟨.symbol .question, start, stop⟩ :: us)
  | atom {tree : Expr} {ts : List Spanned} (inner : Derives caseSensitive (.primary tree) ts) :
      Derives caseSensitive (.substitution tree) ts
  | number {n : Decimal} {start : Position} {stop : Nat} :
      Derives caseSensitive (.primary (.literal (.number n))) [⟨.number n, start, stop⟩]
  | text {s : String} {start : Position} {stop : Nat} :
      Derives caseSensitive (.primary (.literal (.text s))) [⟨.text s, start, stop⟩]
  | boolean {b : Bool} {start : Position} {stop : Nat} :
      Derives caseSensitive (.primary (.literal (.boolean b))) [⟨.boolean b, start, stop⟩]
  | null {start : Position} {stop : Nat} :
      Derives caseSensitive (.primary (.literal .null)) [⟨.null, start, stop⟩]
  /-- The digits touch the sign. -/
  | negative {n : Decimal} {start digits : Position} {stop digitsStop : Nat}
      (touching : digits.offset = stop) :
      Derives caseSensitive (.primary (.literal (.number n.neg)))
        [⟨.symbol .minus, start, stop⟩, ⟨.number n, digits, digitsStop⟩]
  | pi {start : Position} {stop : Nat} :
      Derives caseSensitive (.primary (.literal (.number Decimal.pi))) [⟨.name "PI", start, stop⟩]
  | euler {start : Position} {stop : Nat} :
      Derives caseSensitive (.primary (.literal (.number Decimal.euler))) [⟨.name "E", start, stop⟩]
  | parenthesized {tree : Expr} {ts : List Spanned} {start finish : Position}
      {stop finishStop : Nat} (inner : Derives caseSensitive (.expression tree) ts) :
      Derives caseSensitive (.primary tree)
        (⟨.symbol .openParen, start, stop⟩ :: (ts ++ [⟨.symbol .closeParen, finish, finishStop⟩]))
  | named {name : String} {start : Position} {stop : Nat} (plain : IsPlainName name) :
      Derives caseSensitive (.primary (.variable ⟨name, none, false⟩)) [⟨.name name, start, stop⟩]
  | element {name : String} {index : Expr} {ts : List Spanned} {start opening finish : Position}
      {stop openingStop finishStop : Nat} (plain : IsPlainName name)
      (inner : Derives caseSensitive (.expression index) ts) :
      Derives caseSensitive (.primary (.variable ⟨name, some index, false⟩))
        (⟨.name name, start, stop⟩ :: ⟨.symbol .openBracket, opening, openingStop⟩ ::
          (ts ++ [⟨.symbol .closeBracket, finish, finishStop⟩]))
  | localVariable {name : String} {word start : Position} {wordStop stop : Nat} :
      Derives caseSensitive (.primary (.variable ⟨name, none, true⟩))
        [⟨.keyword .varWord, word, wordStop⟩, ⟨.name name, start, stop⟩]
  | localElement {name : String} {index : Expr} {ts : List Spanned}
      {word start opening finish : Position} {wordStop stop openingStop finishStop : Nat}
      (inner : Derives caseSensitive (.expression index) ts) :
      Derives caseSensitive (.primary (.variable ⟨name, some index, true⟩))
        (⟨.keyword .varWord, word, wordStop⟩ :: ⟨.name name, start, stop⟩ ::
          ⟨.symbol .openBracket, opening, openingStop⟩ ::
          (ts ++ [⟨.symbol .closeBracket, finish, finishStop⟩]))
  | callNone {name : String} {tree : Expr} {start opening finish : Position}
      {stop openingStop finishStop : Nat} (plain : IsPlainName name)
      (called : CallTree caseSensitive name [] tree) :
      Derives caseSensitive (.primary tree)
        [⟨.name name, start, stop⟩, ⟨.symbol .openParen, opening, openingStop⟩,
          ⟨.symbol .closeParen, finish, finishStop⟩]
  | callSome {name : String} {args : List Expr} {tree : Expr} {ts : List Spanned}
      {start opening finish : Position} {stop openingStop finishStop : Nat}
      (plain : IsPlainName name) (inner : Derives caseSensitive (.arguments args) ts)
      (called : CallTree caseSensitive name args tree) :
      Derives caseSensitive (.primary tree)
        (⟨.name name, start, stop⟩ :: ⟨.symbol .openParen, opening, openingStop⟩ ::
          (ts ++ [⟨.symbol .closeParen, finish, finishStop⟩]))
  | lastArgument {tree : Expr} {ts : List Spanned}
      (inner : Derives caseSensitive (.expression tree) ts) :
      Derives caseSensitive (.arguments [tree]) ts
  | argument {tree : Expr} {others : List Expr} {ts us : List Spanned} {start : Position}
      {stop : Nat} (first : Derives caseSensitive (.expression tree) ts)
      (rest : Derives caseSensitive (.arguments others) us) :
      Derives caseSensitive (.arguments (tree :: others))
        (ts ++ ⟨.symbol .comma, start, stop⟩ :: us)
  | condition {tree : Expr} {ts : List Spanned} {start finish : Position} {stop finishStop : Nat}
      (inner : Derives caseSensitive (.expression tree) ts) :
      Derives caseSensitive (.condition tree)
        (⟨.symbol .openParen, start, stop⟩ :: (ts ++ [⟨.symbol .closeParen, finish, finishStop⟩]))
  /-- No function is declared between these braces. -/
  | braced {functions : List FunctionDef} {statements : List Statement} {ts : List Spanned}
      {start finish : Position} {stop finishStop : Nat}
      (inner : Derives caseSensitive (.block false ⟨functions, statements⟩) ts) :
      Derives caseSensitive (.braced statements)
        (⟨.symbol .openBrace, start, stop⟩ :: (ts ++ [⟨.symbol .closeBrace, finish, finishStop⟩]))
  | branch {test : Expr} {yes : List Statement} {ts us : List Spanned} {start : Position}
      {stop : Nat} (asked : Derives caseSensitive (.condition test) ts)
      (held : Derives caseSensitive (.braced yes) us) :
      Derives caseSensitive (.conditional (.branch test yes none))
        (⟨.keyword .ifWord, start, stop⟩ :: (ts ++ us))
  | branchElse {test : Expr} {yes no : List Statement} {ts us vs : List Spanned}
      {start word : Position} {stop wordStop : Nat}
      (asked : Derives caseSensitive (.condition test) ts)
      (held : Derives caseSensitive (.braced yes) us)
      (otherwise : Derives caseSensitive (.braced no) vs) :
      Derives caseSensitive (.conditional (.branch test yes (some no)))
        (⟨.keyword .ifWord, start, stop⟩ ::
          (ts ++ (us ++ ⟨.keyword .elseWord, word, wordStop⟩ :: vs)))
  | branchElseIf {test : Expr} {yes : List Statement} {no : Statement} {ts us vs : List Spanned}
      {start word : Position} {stop wordStop : Nat}
      (asked : Derives caseSensitive (.condition test) ts)
      (held : Derives caseSensitive (.braced yes) us)
      (otherwise : Derives caseSensitive (.conditional no) vs) :
      Derives caseSensitive (.conditional (.branch test yes (some [no])))
        (⟨.keyword .ifWord, start, stop⟩ ::
          (ts ++ (us ++ ⟨.keyword .elseWord, word, wordStop⟩ :: vs)))
  | loop {test : Expr} {body : List Statement} {ts us : List Spanned} {start : Position}
      {stop : Nat} (asked : Derives caseSensitive (.condition test) ts)
      (repeated : Derives caseSensitive (.braced body) us) :
      Derives caseSensitive (.statement (.loop test body))
        (⟨.keyword .whileWord, start, stop⟩ :: (ts ++ us))
  | conditional {tree : Statement} {ts : List Spanned}
      (inner : Derives caseSensitive (.conditional tree) ts) :
      Derives caseSensitive (.statement tree) ts
  | evaluated {tree : Expr} {ts : List Spanned}
      (inner : Derives caseSensitive (.expression tree) ts) :
      Derives caseSensitive (.statement (.expression tree)) ts
  | function {name : String} {params : List String} {body : Block} {ps ts : List Spanned}
      {word start opening closing brace finish : Position}
      {wordStop stop openingStop closingStop braceStop finishStop : Nat}
      (declared : Parameters params ps) (inner : Derives caseSensitive (.block true body) ts) :
      Derives caseSensitive (.function ⟨name, params, body⟩)
        (⟨.keyword .functionWord, word, wordStop⟩ :: ⟨.name name, start, stop⟩ ::
          ⟨.symbol .openParen, opening, openingStop⟩ ::
          (ps ++ ⟨.symbol .closeParen, closing, closingStop⟩ ::
            ⟨.symbol .openBrace, brace, braceStop⟩ ::
            (ts ++ [⟨.symbol .closeBrace, finish, finishStop⟩])))
  | done {allowed : Bool} : Derives caseSensitive (.block allowed ⟨[], []⟩) []
  | separator {allowed : Bool} {tree : Block} {ts : List Spanned} {start : Position} {stop : Nat}
      (rest : Derives caseSensitive (.block allowed tree) ts) :
      Derives caseSensitive (.block allowed tree) (⟨.symbol .semicolon, start, stop⟩ :: ts)
  /-- A function is declared only where a whole script or the body of a function goes on. -/
  | declaration {declared : FunctionDef} {functions : List FunctionDef}
      {statements : List Statement} {ts us : List Spanned}
      (first : Derives caseSensitive (.function declared) ts)
      (rest : Derives caseSensitive (.block true ⟨functions, statements⟩) us) :
      Derives caseSensitive (.block true ⟨declared :: functions, statements⟩) (ts ++ us)
  | item {allowed : Bool} {first : Statement} {functions : List FunctionDef}
      {statements : List Statement} {ts us : List Spanned}
      (head : Derives caseSensitive (.statement first) ts)
      (apart : first.EndsInBrace ∨ Separated us)
      (rest : Derives caseSensitive (.block allowed ⟨functions, statements⟩) us) :
      Derives caseSensitive (.block allowed ⟨functions, first :: statements⟩) (ts ++ us)

/-- The token may open a primary phrase. -/
def Token.opensPrimary : Token → Bool
  | .number _ | .text _ | .boolean _ | .null | .name _ => true
  | .keyword word => word = .varWord
  | .symbol sign => sign = .minus || sign = .openParen

/-- The token may open an expression. -/
def Token.opensExpression (token : Token) : Bool :=
  token.opensPrimary || token = .symbol .bang

/-- The token may open a statement. -/
def Token.opensStatement (token : Token) : Bool :=
  token.opensExpression || token = .keyword .ifWord || token = .keyword .whileWord

/-- The token may open a phrase of the kind. -/
def Phrase.opener : Phrase → Token → Bool
  | .primary _, token | .substitution _, token => token.opensPrimary
  | .condition _, token => token = .symbol .openParen
  | .braced _, token => token = .symbol .openBrace
  | .conditional _, token => token = .keyword .ifWord
  | .statement _, token => token.opensStatement
  | .function _, token => token = .keyword .functionWord
  | .block allowed _, token =>
    token.opensStatement || token = .symbol .semicolon ||
      (allowed && token = .keyword .functionWord)
  | _, token => token.opensExpression

/-- A phrase that may consist of no token at all. -/
def Phrase.mayBeEmpty : Phrase → Bool
  | .block _ _ => true
  | _ => false

/-- The tokens open as the phrase does. -/
def Phrase.Opened (phrase : Phrase) : List Spanned → Prop
  | [] => phrase.mayBeEmpty = true
  | first :: _ => phrase.opener first.token = true

/-- A phrase opens as its first part does. -/
theorem Phrase.Opened.append {part whole : Phrase} {ts us : List Spanned}
    (opened : part.Opened ts) (nonempty : part.mayBeEmpty = false)
    (openers : ∀ token, part.opener token = true → whole.opener token = true) :
    whole.Opened (ts ++ us) := by
  cases ts with
  | nil =>
    rw [Opened, nonempty] at opened
    cases opened
  | cons first rest => exact openers _ opened

theorem Phrase.Opened.weaken {part whole : Phrase} {ts : List Spanned}
    (opened : part.Opened ts) (nonempty : part.mayBeEmpty = false)
    (openers : ∀ token, part.opener token = true → whole.opener token = true) :
    whole.Opened ts := by
  have appended : whole.Opened (ts ++ []) := opened.append nonempty openers
  rwa [List.append_nil] at appended

/-- The first token of a phrase that only one token may open. -/
theorem Phrase.Opened.head {phrase : Phrase} {tokens : List Spanned} {token : Token}
    (opened : phrase.Opened tokens) (nonempty : phrase.mayBeEmpty = false)
    (only : ∀ other, phrase.opener other = true → other = token) :
    ∃ start stop rest, tokens = ⟨token, start, stop⟩ :: rest := by
  cases tokens with
  | nil =>
    rw [Opened, nonempty] at opened
    cases opened
  | cons first rest => exact ⟨first.start, first.stop, rest, by rw [← only _ opened]⟩

/-- Each phrase is known by the token it opens with, and only a block may be empty. -/
theorem Derives.opens {caseSensitive : Bool} {phrase : Phrase} {tokens : List Spanned}
    (derived : Derives caseSensitive phrase tokens) : phrase.Opened tokens := by
  induction derived with
  | assign _ _ left _ => exact left.append rfl fun _ opened => opened
  | loosest _ inner => exact inner.weaken rfl fun _ opened => opened
  | single _ inner => exact inner.weaken rfl fun _ opened => opened
  | join _ _ _ first _ => exact first.append rfl fun _ opened => opened
  | tighter _ _ inner => exact inner.weaken rfl fun _ opened => opened
  | tightest _ inner => exact inner.weaken rfl fun _ opened => opened
  | plain _ inner =>
    exact inner.weaken rfl fun token opened => by simp_all [Phrase.opener, Token.opensExpression]
  | substitute _ _ left _ => exact left.append rfl fun _ opened => opened
  | atom _ inner => exact inner.weaken rfl fun _ opened => opened
  | lastArgument _ inner => exact inner.weaken rfl fun _ opened => opened
  | argument _ _ first _ => exact first.append rfl fun _ opened => opened
  | conditional _ inner =>
    exact inner.weaken rfl fun token opened => by simp_all [Phrase.opener, Token.opensStatement]
  | evaluated _ inner =>
    exact inner.weaken rfl fun token opened => by simp_all [Phrase.opener, Token.opensStatement]
  | declaration _ _ first _ =>
    exact first.append rfl fun token opened => by simp_all [Phrase.opener]
  | item _ _ _ head _ =>
    exact head.append rfl fun token opened => by simp_all [Phrase.opener]
  | _ => rfl

end RuleScript
