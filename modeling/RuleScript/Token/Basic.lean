import RuleScript.Decimal.Printer

/-!
The tokens of a script and how a message names them.
-/
namespace RuleScript

/-- Words that cannot be names. -/
inductive Keyword
  | varWord
  | ifWord
  | elseWord
  | whileWord
  | functionWord
  deriving DecidableEq, Repr

/-- The spelling of a keyword. -/
def Keyword.spelling : Keyword → String
  | .varWord => "var"
  | .ifWord => "if"
  | .elseWord => "else"
  | .whileWord => "while"
  | .functionWord => "function"

/-- Operators and delimiters. -/
inductive Symbol
  | assign
  | plus
  | minus
  | star
  | slash
  | caret
  | dollar
  | equal
  | notEqual
  | less
  | greater
  | lessEqual
  | greaterEqual
  | andAnd
  | orOr
  | ampersand
  | bar
  | bang
  | question
  | openParen
  | closeParen
  | openBracket
  | closeBracket
  | openBrace
  | closeBrace
  | comma
  | semicolon
  deriving DecidableEq, Repr

/-- The spelling of a symbol. -/
def Symbol.spelling : Symbol → String
  | .assign => "="
  | .plus => "+"
  | .minus => "-"
  | .star => "*"
  | .slash => "/"
  | .caret => "^"
  | .dollar => "$"
  | .equal => "=="
  | .notEqual => "!="
  | .less => "<"
  | .greater => ">"
  | .lessEqual => "<="
  | .greaterEqual => ">="
  | .andAnd => "&&"
  | .orOr => "||"
  | .ampersand => "&"
  | .bar => "|"
  | .bang => "!"
  | .question => "?"
  | .openParen => "("
  | .closeParen => ")"
  | .openBracket => "["
  | .closeBracket => "]"
  | .openBrace => "\x7b"
  | .closeBrace => "\x7d"
  | .comma => ","
  | .semicolon => ";"

/-- A token. Numbers have no sign, and the escapes of a text are already resolved. -/
inductive Token
  | number (n : Decimal)
  | text (s : String)
  | boolean (b : Bool)
  | null
  | name (s : String)
  | keyword (k : Keyword)
  | symbol (s : Symbol)
  deriving DecidableEq, Repr

/-- The token as a message names it. -/
def Token.describe : Token → String
  | .number n => n.toText
  | .text s => "\"" ++ s ++ "\""
  | .boolean true => "true"
  | .boolean false => "false"
  | .null => "null"
  | .name s => s
  | .keyword k => k.spelling
  | .symbol s => "'" ++ s.spelling ++ "'"

/-- A place in a source: line and column count from one, the offset counts characters from zero. -/
structure Position where
  line : Nat
  column : Nat
  offset : Nat
  deriving DecidableEq, Repr

namespace Position

/-- The start of a source. -/
def start : Position := ⟨1, 1, 0⟩

/-- The place after a character. -/
def step (place : Position) (c : Char) : Position :=
  if c = '\n' then ⟨place.line + 1, 1, place.offset + 1⟩
  else ⟨place.line, place.column + 1, place.offset + 1⟩

/-- The place after a text. -/
def past (place : Position) (text : List Char) : Position :=
  text.foldl step place

end Position

/-- A token with the place where it starts and the offset just past it. -/
structure Spanned where
  token : Token
  start : Position
  stop : Nat
  deriving DecidableEq, Repr

end RuleScript
