import RuleScript.Token.Stream

/-!
What can be wrong with a script, where, and how it is reported.
-/
namespace RuleScript

inductive ParseErrorKind
  /-- The source ends in the middle of a statement. -/
  | incomplete
  /-- A token that cannot stand where it does. -/
  | unexpected
  | missingParenthesis
  | missingBrace
  | missingBracket
  | missingQuote
  | illegalSymbol
  | illegalName
  | missingComma
  | functionDeclaration
  | constantAssignment
  deriving DecidableEq, Repr

namespace ParseErrorKind

def code : ParseErrorKind → Nat
  | .incomplete => 1
  | .unexpected => 2
  | .missingParenthesis => 3
  | .missingBrace => 4
  | .missingBracket => 5
  | .missingQuote => 6
  | .illegalSymbol => 7
  | .illegalName => 8
  | .missingComma => 9
  | .functionDeclaration => 10
  | .constantAssignment => 11

def description : ParseErrorKind → String
  | .incomplete => "incomplete statement"
  | .unexpected => "syntax error"
  | .missingParenthesis => "missing ')'"
  | .missingBrace => "missing '\x7d'"
  | .missingBracket => "missing ']'"
  | .missingQuote => "missing quotation mark"
  | .illegalSymbol => "illegal symbol"
  | .illegalName => "illegal variable name"
  | .missingComma => "missing ','"
  | .functionDeclaration => "invalid function declaration"
  | .constantAssignment => "assignment to a constant"

end ParseErrorKind

/-- A kind of error, its place, and what was found there where that helps. -/
structure ParseError where
  kind : ParseErrorKind
  line : Nat
  column : Nat
  detail : Option String
  deriving DecidableEq, Repr

namespace ParseError

/-- An error at a place. -/
def ofKind (kind : ParseErrorKind) (place : Position) (detail : Option String) : ParseError :=
  ⟨kind, place.line, place.column, detail⟩

/-- A fault of the source as an error of the script. -/
def ofScan (error : ScanError) : ParseError :=
  match error.fault with
  | .unclosedText => .ofKind .missingQuote error.place none
  | .illegalSymbol c => .ofKind .illegalSymbol error.place (some (Text.quoteChar c))
  | .illegalName name => .ofKind .illegalName error.place (some name)
  | .malformedNumber text => .ofKind .unexpected error.place (some text)

/-- The error for what a stream goes on with. A fault of the source comes first, and a source that
ends where some token had to follow is incomplete unless the kind says more. -/
def found (kind : ParseErrorKind) : TokenStream → ParseError
  | .broken error => ofScan error
  | .next spanned _ => .ofKind kind spanned.start (some ("found " ++ spanned.token.describe))
  | .finish place =>
    .ofKind (if kind = .unexpected then .incomplete else kind) place (some "found end of input")

def message (error : ParseError) : String :=
  "syntax error E" ++ toString error.kind.code ++ " (" ++ error.kind.description ++ ") at line " ++
    toString error.line ++ ", position " ++ toString error.column ++
    match error.detail with
    | some detail => ": " ++ detail
    | none => ""

end ParseError
end RuleScript
