import RuleScript.Script.Parser

/-!
The parser as it asks for tokens. `Parser` is given a source that is cut into tokens; what runs asks
for one token after the other. It holds one token, asks for the next when it takes the one it holds,
and looks one further only behind a minus sign. This is that parser, with the books kept: how often
a token was asked for, how many were taken, and which function was entered when.
-/
namespace RuleScript.Parser

/-- What a reader holds. -/
inductive Held
  | token (spanned : Spanned)
  | finish (place : Position)

/-- The functions of the parser. A loop is a function that enters itself once for each round. -/
inductive Routine
  | block
  | statement
  | branch
  | condition
  | braced
  | function
  | parameters
  | expression
  | tier (level : Tier)
  | operand (level : Tier)
  | chain (level : Tier)
  | unary
  | substitution
  | primary
  | index
  | arguments
  | argumentsFrom
  deriving DecidableEq

/-- A function was entered when so many tokens had been taken. -/
structure Visit where
  routine : Routine
  taken : Nat
  deriving DecidableEq

structure Reader where
  current : Held
  /-- What stands behind, if it was looked at. -/
  peeked : Option Held
  /-- The rest of the source. -/
  cursor : Cursor
  requests : Nat
  taken : Nat
  /-- The entries into functions, the latest first. -/
  visits : List Visit

/-- Nothing was asked for yet. -/
def Reader.ofSource (source : String) : Reader :=
  ⟨.finish .start, none, .ofSource source, 0, 0, []⟩

/-- A computation that asks for tokens. The reader is there also when it fails. -/
def Pull (α : Type) : Type :=
  Reader → Except Halt α × Reader

namespace Pull

/-- Goes on after what succeeded. -/
def andThen {α β : Type} (next : α → Pull β) : Except Halt α × Reader → Except Halt β × Reader
  | (.ok value, reader) => next value reader
  | (.error halt, reader) => (.error halt, reader)

instance : Monad Pull where
  pure value := fun reader => (.ok value, reader)
  bind first next := fun reader => andThen next (first reader)

def halt {α : Type} (reason : Halt) : Pull α :=
  fun reader => (.error reason, reader)

def enter (routine : Routine) : Pull Unit :=
  fun reader => (.ok (), { reader with visits := ⟨routine, reader.taken⟩ :: reader.visits })

/-- What the reader holds. -/
def look : Pull Held :=
  fun reader => (.ok reader.current, reader)

/-- Asks the scanner for one token. -/
def request : Pull Held :=
  fun reader =>
    let asked := { reader with requests := reader.requests + 1 }
    match reader.cursor.next with
    | .finish place => (.ok (.finish place), asked)
    | .broken error => (.error (.failed (.ofScan error)), asked)
    | .token spanned rest => (.ok (.token spanned), { asked with cursor := rest })

/-- Holds the next token. -/
def load : Pull Unit :=
  request >>= fun held reader => (.ok (), { reader with current := held })

/-- Takes the token that the reader holds. -/
def advance : Pull Unit :=
  fun reader =>
    let after := { reader with taken := reader.taken + 1 }
    match reader.peeked with
    | some held => (.ok (), { after with current := held, peeked := none })
    | none =>
      match load reader with
      | (.ok _, loaded) => (.ok (), { loaded with taken := reader.taken + 1 })
      | (.error halt, failed) => (.error halt, failed)

/-- What stands behind the token that the reader holds. -/
def peek : Pull Held :=
  fun reader =>
    match reader.peeked with
    | some held => (.ok held, reader)
    | none =>
      andThen (fun held asked => (.ok held, { asked with peeked := some held })) (request reader)

end Pull

/-- The stream that holds no more than what the reader holds. -/
def Held.alone : Held → TokenStream
  | .token spanned => .next spanned (.finish spanned.start)
  | .finish place => .finish place

namespace Pull

/-- Fails with an error for what the reader holds. -/
def unexpected {α : Type} (kind : ParseErrorKind) : Pull α := do
  let held ← look
  halt (.failed (.found kind held.alone))

/-- Takes one symbol. -/
def expect (symbol : Symbol) (kind : ParseErrorKind) : Pull Unit := do
  match ← look with
  | .token spanned =>
    if spanned.token = .symbol symbol then advance else unexpected kind
  | .finish _ => unexpected kind

def negativeNumber (minus : Spanned) : Pull Expr := do
  let loose := halt (.failed (.ofKind .illegalSymbol minus.start
    (some "'-' must be immediately followed by a digit")))
  match ← peek with
  | .finish _ => loose
  | .token spanned =>
    match spanned.token with
    | .number n =>
      if spanned.start.offset = minus.stop then do
        advance
        advance
        pure (.literal (.number n.neg))
      else loose
    | _ => loose

mutual

def expression (caseSensitive : Bool) : Nat → Pull Expr
  | 0 => halt .exhausted
  | steps + 1 => do
    enter .expression
    let start ← look
    let left ← tier caseSensitive steps .logical
    match ← look with
    | .token ⟨.symbol .assign, _, _⟩ =>
      match left with
      | .variable target => do
        advance
        let value ← expression caseSensitive steps
        pure (.assign target value)
      | .literal _ => halt (.failed (.ofKind .constantAssignment start.alone.place none))
      | other =>
        halt (.failed (.ofKind .unexpected start.alone.place
          (some ("cannot assign to " ++ other.display))))
    | _ => pure left

def tier (caseSensitive : Bool) : Nat → Tier → Pull Expr
  | 0, _ => halt .exhausted
  | steps + 1, level => do
    enter (.tier level)
    let left ← operand caseSensitive steps level
    chain caseSensitive steps level left

def operand (caseSensitive : Bool) : Nat → Tier → Pull Expr
  | 0, _ => halt .exhausted
  | steps + 1, level => do
    enter (.operand level)
    match level.tighter? with
    | some inner => tier caseSensitive steps inner
    | none => unary caseSensitive steps

def chain (caseSensitive : Bool) : Nat → Tier → Expr → Pull Expr
  | 0, _, _ => halt .exhausted
  | steps + 1, level, left => do
    enter (.chain level)
    match ← look with
    | .token ⟨.symbol symbol, _, _⟩ =>
      match level.operator? symbol with
      | some op => do
        advance
        let right ← operand caseSensitive steps level
        chain caseSensitive steps level (.binary op left right)
      | none => pure left
    | _ => pure left

def unary (caseSensitive : Bool) : Nat → Pull Expr
  | 0 => halt .exhausted
  | steps + 1 => do
    enter .unary
    match ← look with
    | .token ⟨.symbol .bang, _, _⟩ => do
      advance
      let operand ← unary caseSensitive steps
      pure (.not operand)
    | _ => substitution caseSensitive steps

def substitution (caseSensitive : Bool) : Nat → Pull Expr
  | 0 => halt .exhausted
  | steps + 1 => do
    enter .substitution
    let primary ← primary caseSensitive steps
    match ← look with
    | .token ⟨.symbol .question, _, _⟩ => do
      advance
      let fallback ← substitution caseSensitive steps
      pure (.substitute primary fallback)
    | _ => pure primary

def primary (caseSensitive : Bool) : Nat → Pull Expr
  | 0 => halt .exhausted
  | steps + 1 => do
    enter .primary
    match ← look with
    | .finish place => halt (.failed (.ofKind .incomplete place none))
    | .token spanned =>
      match spanned.token with
      | .number n => do
        advance
        pure (.literal (.number n))
      | .text s => do
        advance
        pure (.literal (.text s))
      | .boolean b => do
        advance
        pure (.literal (.boolean b))
      | .null => do
        advance
        pure (.literal .null)
      | .symbol .minus => negativeNumber spanned
      | .symbol .openParen => do
        advance
        let inner ← expression caseSensitive steps
        expect .closeParen .missingParenthesis
        pure inner
      | .keyword .varWord => do
        advance
        match ← look with
        | .token ⟨.name name, _, _⟩ => do
          advance
          let index ← index caseSensitive steps
          pure (.variable ⟨name, index, true⟩)
        | _ => unexpected .illegalName
      | .name name =>
        match constant? name with
        | some n => do
          advance
          pure (.literal (.number n))
        | none => do
          advance
          match ← look with
          | .token ⟨.symbol .openParen, _, _⟩ => do
            advance
            let args ← arguments caseSensitive steps
            pure (callOf caseSensitive name args)
          | _ => do
            let index ← index caseSensitive steps
            pure (.variable ⟨name, index, false⟩)
      | token => unexpected (strayKind token)

def index (caseSensitive : Bool) : Nat → Pull (Option Expr)
  | 0 => halt .exhausted
  | steps + 1 => do
    enter .index
    match ← look with
    | .token ⟨.symbol .openBracket, _, _⟩ => do
      advance
      let inner ← expression caseSensitive steps
      expect .closeBracket .missingBracket
      pure (some inner)
    | _ => pure none

def arguments (caseSensitive : Bool) : Nat → Pull (List Expr)
  | 0 => halt .exhausted
  | steps + 1 => do
    enter .arguments
    match ← look with
    | .token ⟨.symbol .closeParen, _, _⟩ => do
      advance
      pure []
    | _ => argumentsFrom caseSensitive steps

def argumentsFrom (caseSensitive : Bool) : Nat → Pull (List Expr)
  | 0 => halt .exhausted
  | steps + 1 => do
    enter .argumentsFrom
    let arg ← expression caseSensitive steps
    match ← look with
    | .token ⟨.symbol .comma, _, _⟩ => do
      advance
      let others ← argumentsFrom caseSensitive steps
      pure (arg :: others)
    | .token ⟨.symbol .closeParen, _, _⟩ => do
      advance
      pure [arg]
    | .token ⟨.symbol .semicolon, _, _⟩ => unexpected .missingParenthesis
    | .token ⟨.symbol .closeBrace, _, _⟩ => unexpected .missingParenthesis
    | .finish _ => unexpected .missingParenthesis
    | _ => unexpected .missingComma

end

def condition (caseSensitive : Bool) (steps : Nat) : Pull Expr := do
  enter .condition
  expect .openParen .unexpected
  let inner ← expression caseSensitive steps
  expect .closeParen .missingParenthesis
  pure inner

/-- The rounds are bounded by the characters that are left. -/
def parameters : Nat → Pull (List String)
  | 0 => halt .exhausted
  | rounds + 1 => do
    enter .parameters
    match ← look with
    | .token ⟨.name param, _, _⟩ => do
      advance
      match ← look with
      | .token ⟨.symbol .comma, _, _⟩ => do
        advance
        let others ← parameters rounds
        pure (param :: others)
      | _ => pure [param]
    | _ => unexpected .functionDeclaration

def parametersOrNone : Pull (List String) := do
  match ← look with
  | .token ⟨.symbol .closeParen, _, _⟩ => pure []
  | _ => fun reader => parameters (reader.cursor.text.length + 2) reader

def functionHead : Pull (String × List String) := do
  match ← look with
  | .token ⟨.name name, _, _⟩ => do
    advance
    expect .openParen .functionDeclaration
    let params ← parametersOrNone
    expect .closeParen .functionDeclaration
    expect .openBrace .functionDeclaration
    pure (name, params)
  | _ => unexpected .functionDeclaration

/-- A statement may end at what the reader holds. -/
def endsStatement (inBraces : Bool) : Held → Bool
  | .finish _ => true
  | .token ⟨.symbol .semicolon, _, _⟩ => true
  | .token ⟨.symbol .closeBrace, _, _⟩ => inBraces
  | _ => false

mutual

def block (caseSensitive functionsAllowed inBraces : Bool) : Nat → Pull Block
  | 0 => halt .exhausted
  | steps + 1 => do
    enter .block
    match ← look with
    | .finish _ => pure .empty
    | .token ⟨.symbol .semicolon, _, _⟩ => do
      advance
      block caseSensitive functionsAllowed inBraces steps
    | .token ⟨.keyword .functionWord, _, _⟩ =>
      if functionsAllowed then do
        advance
        let declared ← function caseSensitive steps
        let others ← block caseSensitive functionsAllowed inBraces steps
        pure (others.addFunction declared)
      else unexpected .functionDeclaration
    | .token spanned =>
      if inBraces && spanned.token = .symbol .closeBrace then pure .empty
      else do
        let first ← statement caseSensitive steps
        let held ← look
        if first.isBraced || endsStatement inBraces held then do
          let others ← block caseSensitive functionsAllowed inBraces steps
          pure (others.addStatement first)
        else unexpected .unexpected

def statement (caseSensitive : Bool) : Nat → Pull Statement
  | 0 => halt .exhausted
  | steps + 1 => do
    enter .statement
    match ← look with
    | .token ⟨.keyword .ifWord, _, _⟩ => do
      advance
      branch caseSensitive steps
    | .token ⟨.keyword .whileWord, _, _⟩ => do
      advance
      let test ← condition caseSensitive steps
      let body ← braced caseSensitive steps
      pure (.loop test body)
    | _ => do
      let value ← expression caseSensitive steps
      pure (.expression value)

def branch (caseSensitive : Bool) : Nat → Pull Statement
  | 0 => halt .exhausted
  | steps + 1 => do
    enter .branch
    let test ← condition caseSensitive steps
    let yes ← braced caseSensitive steps
    match ← look with
    | .token ⟨.keyword .elseWord, _, _⟩ => do
      advance
      match ← look with
      | .token ⟨.keyword .ifWord, _, _⟩ => do
        advance
        let no ← branch caseSensitive steps
        pure (.branch test yes (some [no]))
      | _ => do
        let no ← braced caseSensitive steps
        pure (.branch test yes (some no))
    | _ => pure (.branch test yes none)

def braced (caseSensitive : Bool) : Nat → Pull (List Statement)
  | 0 => halt .exhausted
  | steps + 1 => do
    enter .braced
    expect .openBrace .unexpected
    let inner ← block caseSensitive false true steps
    expect .closeBrace .missingBrace
    pure inner.statements

def function (caseSensitive : Bool) : Nat → Pull FunctionDef
  | 0 => halt .exhausted
  | steps + 1 => do
    enter .function
    let (name, params) ← functionHead
    let body ← block caseSensitive true true steps
    expect .closeBrace .missingBrace
    pure ⟨name, params, body⟩

end

/-- A whole source read as a block: the end is taken as well. -/
def source (caseSensitive : Bool) (steps : Nat) : Pull Block := do
  load
  let body ← block caseSensitive true false steps
  match ← look with
  | .finish _ => do
    advance
    pure body
  | _ => unexpected .unexpected

/-- Reads a script, with the books as they are at the end. -/
def program (settings : Settings) (source : String) (steps : Nat) : Except Halt Block × Reader :=
  Pull.source settings.caseSensitive steps (.ofSource (effectiveSource settings source))

end Pull

end RuleScript.Parser
