import RuleScript.Script.ParseError
import RuleScript.Script.Printer

/-!
Reading a script. Binary operators come in six tiers, loosest first, and group to the left within a
tier; assignment, negation and substitution group to the right. Every function reads a phrase at
the head of a token stream and gives back its tree and the stream behind it.

The functions recur on a step count. `Parser.steps` is a count that is always enough: it is linear
in the number of tokens, because a phrase is at most sixteen calls away from its first token.
-/
namespace RuleScript

/-- The tiers of binary operators. -/
inductive Tier
  | logical
  | additive
  | multiplicative
  | power
  | comparison
  | bitwise
  deriving DecidableEq, Repr

namespace Tier

/-- The operator that a symbol stands for on a tier. -/
def operator? : Tier → Symbol → Option Operator
  | .logical, .orOr => some .or
  | .logical, .andAnd => some .and
  | .additive, .plus => some .add
  | .additive, .minus => some .subtract
  | .multiplicative, .star => some .multiply
  | .multiplicative, .slash => some .divide
  | .power, .caret => some .power
  | .power, .dollar => some .power
  | .comparison, .equal => some .equal
  | .comparison, .notEqual => some .notEqual
  | .comparison, .less => some .less
  | .comparison, .greater => some .greater
  | .comparison, .lessEqual => some .lessEqual
  | .comparison, .greaterEqual => some .greaterEqual
  | .bitwise, .ampersand => some .bitAnd
  | .bitwise, .bar => some .bitOr
  | _, _ => none

/-- The tier that the operands of a tier belong to; the operands of the last are unary phrases. -/
def tighter? : Tier → Option Tier
  | .logical => some .additive
  | .additive => some .multiplicative
  | .multiplicative => some .power
  | .power => some .comparison
  | .comparison => some .bitwise
  | .bitwise => none

end Tier

namespace Parser

/-- Why a phrase was not read. -/
inductive Halt
  | failed (error : ParseError)
  /-- The steps ran out. -/
  | exhausted
  deriving DecidableEq, Repr

/-- Names that stand for numbers. -/
def constant? : String → Option Decimal
  | "PI" => some Decimal.pi
  | "E" => some Decimal.euler
  | _ => none

/-- The built-in function that a name calls. -/
def builtin? (caseSensitive : Bool) (name : String) : Option Builtin :=
  Builtin.ofName? (foldName caseSensitive name)

/-- A call of a built-in function or of one that is looked up when it runs. -/
def callOf (caseSensitive : Bool) (name : String) (args : List Expr) : Expr :=
  match builtin? caseSensitive name with
  | some function => .builtin function args
  | none => .call name args

/-- Fails with an error for what the stream goes on with. -/
def unexpected {α : Type} (kind : ParseErrorKind) (stream : TokenStream) : Except Halt α :=
  .error (.failed (ParseError.found kind stream))

/-- Takes one symbol off the stream. -/
def expect (symbol : Symbol) (kind : ParseErrorKind) (stream : TokenStream) :
    Except Halt TokenStream :=
  match stream with
  | .next spanned rest =>
    if spanned.token = .symbol symbol then .ok rest else unexpected kind stream
  | _ => unexpected kind stream

/-- The stream goes on with the given symbol. -/
def startsWith (symbol : Symbol) : TokenStream → Bool
  | .next spanned _ => spanned.token = .symbol symbol
  | _ => false

/-- The kind of error for a token that starts no expression. -/
def strayKind : Token → ParseErrorKind
  | .keyword _ => .illegalName
  | _ => .unexpected

/-- A minus sign is part of a number when the digits touch it. -/
def negativeNumber (minus : Spanned) (rest : TokenStream) : Except Halt (Expr × TokenStream) :=
  let loose := .error (.failed (.ofKind .illegalSymbol minus.start
    (some "'-' must be immediately followed by a digit")))
  match rest with
  | .broken error => .error (.failed (.ofScan error))
  | .finish _ => loose
  | .next spanned after =>
    match spanned.token with
    | .number n =>
      if spanned.start.offset = minus.stop then .ok (.literal (.number n.neg), after) else loose
    | _ => loose

/-- The parameters of a function declaration from the first on. -/
def parameters : TokenStream → Except Halt (List String × TokenStream)
  | .next ⟨.name param, _, _⟩ (.next ⟨.symbol .comma, _, _⟩ rest) => do
    let (others, rest) ← parameters rest
    pure (param :: others, rest)
  | .next ⟨.name param, _, _⟩ rest => .ok ([param], rest)
  | stream => unexpected .functionDeclaration stream

/-- The parameters between the parentheses of a function declaration. -/
def parametersOrNone (stream : TokenStream) : Except Halt (List String × TokenStream) :=
  if startsWith .closeParen stream then .ok ([], stream) else parameters stream

/-- The head of a function declaration behind its keyword: name, parameters and opening brace. -/
def functionHead (stream : TokenStream) : Except Halt ((String × List String) × TokenStream) :=
  match stream with
  | .next ⟨.name name, _, _⟩ rest => do
    let rest ← expect .openParen .functionDeclaration rest
    let (params, rest) ← parametersOrNone rest
    let rest ← expect .closeParen .functionDeclaration rest
    let rest ← expect .openBrace .functionDeclaration rest
    pure ((name, params), rest)
  | _ => unexpected .functionDeclaration stream

mutual

/-- An assignment, or an expression of the loosest tier. -/
def expression (caseSensitive : Bool) : Nat → TokenStream → Except Halt (Expr × TokenStream)
  | 0, _ => .error .exhausted
  | steps + 1, stream => do
    let (left, rest) ← tier caseSensitive steps .logical stream
    match rest with
    | .next ⟨.symbol .assign, _, _⟩ afterSign =>
      match left with
      | .variable target =>
        let (value, rest) ← expression caseSensitive steps afterSign
        pure (.assign target value, rest)
      | .literal _ => .error (.failed (.ofKind .constantAssignment stream.place none))
      | other =>
        .error (.failed (.ofKind .unexpected stream.place
          (some ("cannot assign to " ++ other.display))))
    | _ => pure (left, rest)

/-- Operands of a tier joined by its operators. -/
def tier (caseSensitive : Bool) : Nat → Tier → TokenStream → Except Halt (Expr × TokenStream)
  | 0, _, _ => .error .exhausted
  | steps + 1, level, stream => do
    let (left, rest) ← operand caseSensitive steps level stream
    chain caseSensitive steps level left rest

/-- An operand of a tier. -/
def operand (caseSensitive : Bool) : Nat → Tier → TokenStream → Except Halt (Expr × TokenStream)
  | 0, _, _ => .error .exhausted
  | steps + 1, level, stream =>
    match level.tighter? with
    | some inner => tier caseSensitive steps inner stream
    | none => unary caseSensitive steps stream

/-- The operators and operands of a tier that follow a left operand. -/
def chain (caseSensitive : Bool) :
    Nat → Tier → Expr → TokenStream → Except Halt (Expr × TokenStream)
  | 0, _, _, _ => .error .exhausted
  | steps + 1, level, left, stream =>
    match stream with
    | .next ⟨.symbol symbol, _, _⟩ rest =>
      match level.operator? symbol with
      | some op => do
        let (right, rest) ← operand caseSensitive steps level rest
        chain caseSensitive steps level (.binary op left right) rest
      | none => pure (left, stream)
    | _ => pure (left, stream)

/-- A negation, or a phrase that binds tighter. -/
def unary (caseSensitive : Bool) : Nat → TokenStream → Except Halt (Expr × TokenStream)
  | 0, _ => .error .exhausted
  | steps + 1, stream =>
    match stream with
    | .next ⟨.symbol .bang, _, _⟩ rest => do
      let (operand, rest) ← unary caseSensitive steps rest
      pure (.not operand, rest)
    | _ => substitution caseSensitive steps stream

/-- A primary phrase with or without a substitute for null. -/
def substitution (caseSensitive : Bool) : Nat → TokenStream → Except Halt (Expr × TokenStream)
  | 0, _ => .error .exhausted
  | steps + 1, stream => do
    let (primary, rest) ← primary caseSensitive steps stream
    match rest with
    | .next ⟨.symbol .question, _, _⟩ rest =>
      let (fallback, rest) ← substitution caseSensitive steps rest
      pure (.substitute primary fallback, rest)
    | _ => pure (primary, rest)

/-- A literal, a variable, a call, or an expression in parentheses. -/
def primary (caseSensitive : Bool) : Nat → TokenStream → Except Halt (Expr × TokenStream)
  | 0, _ => .error .exhausted
  | steps + 1, stream =>
    match stream with
    | .broken error => .error (.failed (.ofScan error))
    | .finish place => .error (.failed (.ofKind .incomplete place none))
    | .next spanned rest =>
      match spanned.token with
      | .number n => pure (.literal (.number n), rest)
      | .text s => pure (.literal (.text s), rest)
      | .boolean b => pure (.literal (.boolean b), rest)
      | .null => pure (.literal .null, rest)
      | .symbol .minus => negativeNumber spanned rest
      | .symbol .openParen => do
        let (inner, rest) ← expression caseSensitive steps rest
        let rest ← expect .closeParen .missingParenthesis rest
        pure (inner, rest)
      | .keyword .varWord =>
        match rest with
        | .next ⟨.name name, _, _⟩ rest => do
          let (index, rest) ← index caseSensitive steps rest
          pure (.variable ⟨name, index, true⟩, rest)
        | _ => unexpected .illegalName rest
      | .name name =>
        match constant? name with
        | some n => pure (.literal (.number n), rest)
        | none =>
          match rest with
          | .next ⟨.symbol .openParen, _, _⟩ rest => do
            let (args, rest) ← arguments caseSensitive steps rest
            pure (callOf caseSensitive name args, rest)
          | _ => do
            let (index, rest) ← index caseSensitive steps rest
            pure (.variable ⟨name, index, false⟩, rest)
      | token => unexpected (strayKind token) stream

/-- An index in brackets, or none. -/
def index (caseSensitive : Bool) : Nat → TokenStream → Except Halt (Option Expr × TokenStream)
  | 0, _ => .error .exhausted
  | steps + 1, stream =>
    match stream with
    | .next ⟨.symbol .openBracket, _, _⟩ rest => do
      let (inner, rest) ← expression caseSensitive steps rest
      let rest ← expect .closeBracket .missingBracket rest
      pure (some inner, rest)
    | _ => pure (none, stream)

/-- The arguments of a call behind its opening parenthesis, with the closing one. -/
def arguments (caseSensitive : Bool) : Nat → TokenStream → Except Halt (List Expr × TokenStream)
  | 0, _ => .error .exhausted
  | steps + 1, stream =>
    match stream with
    | .next ⟨.symbol .closeParen, _, _⟩ rest => pure ([], rest)
    | _ => argumentsFrom caseSensitive steps stream

/-- At least one argument, and the closing parenthesis. -/
def argumentsFrom (caseSensitive : Bool) : Nat → TokenStream → Except Halt (List Expr × TokenStream)
  | 0, _ => .error .exhausted
  | steps + 1, stream => do
    let (arg, rest) ← expression caseSensitive steps stream
    match rest with
    | .next ⟨.symbol .comma, _, _⟩ rest =>
      let (others, rest) ← argumentsFrom caseSensitive steps rest
      pure (arg :: others, rest)
    | .next ⟨.symbol .closeParen, _, _⟩ rest => pure ([arg], rest)
    | .next ⟨.symbol .semicolon, _, _⟩ _ => unexpected .missingParenthesis rest
    | .next ⟨.symbol .closeBrace, _, _⟩ _ => unexpected .missingParenthesis rest
    | .finish _ => unexpected .missingParenthesis rest
    | _ => unexpected .missingComma rest

end

/-- The stream ends, or a statement may end here: at a separator, or at the closing brace of the
block it stands in. -/
def endsStatement (inBraces : Bool) : TokenStream → Bool
  | .finish _ => true
  | .next ⟨.symbol .semicolon, _, _⟩ _ => true
  | .next ⟨.symbol .closeBrace, _, _⟩ _ => inBraces
  | _ => false

/-- A condition in parentheses. -/
def condition (caseSensitive : Bool) (steps : Nat) (stream : TokenStream) :
    Except Halt (Expr × TokenStream) := do
  let rest ← expect .openParen .unexpected stream
  let (inner, rest) ← expression caseSensitive steps rest
  let rest ← expect .closeParen .missingParenthesis rest
  pure (inner, rest)

mutual

/-- Statements, and function declarations where they are allowed, up to the end of the stream or
the closing brace of the block. -/
def block (caseSensitive functionsAllowed inBraces : Bool) :
    Nat → TokenStream → Except Halt (Block × TokenStream)
  | 0, _ => .error .exhausted
  | steps + 1, stream =>
    match stream with
    | .finish _ => pure (.empty, stream)
    | .next ⟨.symbol .semicolon, _, _⟩ rest =>
      block caseSensitive functionsAllowed inBraces steps rest
    | .next ⟨.keyword .functionWord, _, _⟩ rest =>
      if functionsAllowed then do
        let (declared, rest) ← function caseSensitive steps rest
        let (others, rest) ← block caseSensitive functionsAllowed inBraces steps rest
        pure (others.addFunction declared, rest)
      else unexpected .functionDeclaration stream
    | _ =>
      if inBraces && startsWith .closeBrace stream then pure (.empty, stream)
      else do
        let (first, rest) ← statement caseSensitive steps stream
        if first.isBraced || endsStatement inBraces rest then
          let (others, rest) ← block caseSensitive functionsAllowed inBraces steps rest
          pure (others.addStatement first, rest)
        else unexpected .unexpected rest

def statement (caseSensitive : Bool) : Nat → TokenStream → Except Halt (Statement × TokenStream)
  | 0, _ => .error .exhausted
  | steps + 1, stream =>
    match stream with
    | .next ⟨.keyword .ifWord, _, _⟩ rest => branch caseSensitive steps rest
    | .next ⟨.keyword .whileWord, _, _⟩ rest => do
      let (test, rest) ← condition caseSensitive steps rest
      let (body, rest) ← braced caseSensitive steps rest
      pure (.loop test body, rest)
    | _ => do
      let (value, rest) ← expression caseSensitive steps stream
      pure (.expression value, rest)

/-- A conditional behind its keyword. -/
def branch (caseSensitive : Bool) : Nat → TokenStream → Except Halt (Statement × TokenStream)
  | 0, _ => .error .exhausted
  | steps + 1, stream => do
    let (test, rest) ← condition caseSensitive steps stream
    let (yes, rest) ← braced caseSensitive steps rest
    match rest with
    | .next ⟨.keyword .elseWord, _, _⟩ (.next ⟨.keyword .ifWord, _, _⟩ rest) =>
      let (no, rest) ← branch caseSensitive steps rest
      pure (.branch test yes (some [no]), rest)
    | .next ⟨.keyword .elseWord, _, _⟩ rest =>
      let (no, rest) ← braced caseSensitive steps rest
      pure (.branch test yes (some no), rest)
    | _ => pure (.branch test yes none, rest)

/-- Statements in braces, without function declarations. -/
def braced (caseSensitive : Bool) : Nat → TokenStream → Except Halt (List Statement × TokenStream)
  | 0, _ => .error .exhausted
  | steps + 1, stream => do
    let rest ← expect .openBrace .unexpected stream
    let (inner, rest) ← block caseSensitive false true steps rest
    let rest ← expect .closeBrace .missingBrace rest
    pure (inner.statements, rest)

/-- A function declaration behind its keyword. -/
def function (caseSensitive : Bool) : Nat → TokenStream → Except Halt (FunctionDef × TokenStream)
  | 0, _ => .error .exhausted
  | steps + 1, stream => do
    let ((name, params), rest) ← functionHead stream
    let (body, rest) ← block caseSensitive true true steps rest
    let rest ← expect .closeBrace .missingBrace rest
    pure (⟨name, params, body⟩, rest)

end

/-- Enough steps to read any phrase of a stream. -/
def steps (stream : TokenStream) : Nat :=
  32 * (stream.length + 1)

/-- A whole stream read as one phrase: nothing may follow the phrase. -/
def whole {α : Type} (phrase : Nat → TokenStream → Except Halt (α × TokenStream))
    (stream : TokenStream) : Except Halt α := do
  let (tree, rest) ← phrase (steps stream) stream
  match rest with
  | .finish _ => pure tree
  | _ => unexpected .unexpected rest

/-- The outcome without the step count. -/
def outcome {α : Type} (stream : TokenStream) : Except Halt α → Except ParseError α
  | .ok tree => .ok tree
  | .error (.failed error) => .error error
  | .error .exhausted => .error (.ofKind .incomplete stream.place none)

end Parser

/-- Reads a single expression. -/
def Expr.parse (caseSensitive : Bool) (source : String) : Except ParseError Expr :=
  let stream := TokenStream.ofSource source
  Parser.outcome stream (Parser.whole (Parser.expression caseSensitive) stream)

/-- Reads a block that is a whole source. -/
def Block.parse (caseSensitive : Bool) (source : String) : Except ParseError Block :=
  let stream := TokenStream.ofSource source
  Parser.outcome stream (Parser.whole (Parser.block caseSensitive true false) stream)

/-- The source that is run: the default one in place of a blank one. -/
def effectiveSource (settings : Settings) (source : String) : String :=
  if (Text.trimChars source.toList).isEmpty then settings.defaultSource else source

/-- Reads a script. -/
def Program.parse (settings : Settings) (source : String) : Except ParseError Program := do
  let source := effectiveSource settings source
  let body ← Block.parse settings.caseSensitive source
  pure ⟨source, body⟩

end RuleScript
