import RuleScript.Decimal.Reader
import RuleScript.Text.Numeral
import RuleScript.Text.Quoted
import RuleScript.Token.Basic

/-!
The token at the head of a text. Every reading says how many characters it takes, so that the rest
of the source and the places in it follow from the lengths alone.
-/
namespace RuleScript

/-- Why a text does not start with a token. -/
inductive Fault
  /-- A text literal without its closing quote. -/
  | unclosedText
  /-- A character that starts no token, or a control character inside a text literal. -/
  | illegalSymbol (c : Char)
  /-- Digits that run into a name. -/
  | illegalName (name : String)
  /-- A number with two points, a point at its end, or too many digits. -/
  | malformedNumber (text : String)
  deriving DecidableEq, Repr

/-- A fault and the place it was found at. -/
structure ScanError where
  fault : Fault
  place : Position
  deriving DecidableEq, Repr

/-- The message for a fault. -/
def ScanError.message (error : ScanError) : String :=
  let place := toString error.place.line ++ ", position " ++ toString error.place.column
  match error.fault with
  | .unclosedText => "unterminated string starting at line " ++ place
  | .illegalSymbol c => "illegal symbol " ++ Text.quoteChar c ++ " at line " ++ place
  | .illegalName name => "illegal variable name '" ++ name ++ "' at line " ++ place
  | .malformedNumber text => "malformed number '" ++ text ++ "' at line " ++ place

namespace Lexeme

/-- The result of reading a token: the token with the number of characters it takes, or a fault
with the number of characters in front of it. -/
abbrev Reading := Except (Fault × Nat) (Token × Nat)

/-- A character that may start a name. -/
def startsName (c : Char) : Bool :=
  Text.isLetter c || c = '_'

/-- A character that may go on a name. -/
def continuesName (c : Char) : Bool :=
  Text.isLetterOrNumeral c || c = '_' || c = '.'

/-- The token for a word. -/
def ofWord (word : String) : Token :=
  match word with
  | "true" => .boolean true
  | "false" => .boolean false
  | "null" => .null
  | "NULL" => .null
  | "var" => .keyword .varWord
  | "if" => .keyword .ifWord
  | "else" => .keyword .elseWord
  | "while" => .keyword .whileWord
  | "function" => .keyword .functionWord
  | name => .name name

def readWord (text : List Char) : Reading :=
  let word := text.takeWhile continuesName
  .ok (ofWord (String.ofList word), word.length)

/-- A character of a number. -/
def isNumberChar (c : Char) : Bool :=
  c.isDigit || c = '.'

/-- Digits and points form a number when no name follows at once and at most one point stands
between digits. -/
def readNumber (text : List Char) : Reading :=
  let number := text.takeWhile isNumberChar
  let rest := text.dropWhile isNumberChar
  if rest.head?.any startsName then
    .error (.illegalName (String.ofList (number ++ rest.takeWhile continuesName)), 0)
  else if 1 < number.count '.' || number.getLast? = some '.' then
    .error (.malformedNumber (String.ofList number), 0)
  else
    match Decimal.ofChars? number with
    | some n => .ok (.number n, number.length)
    | none => .error (.malformedNumber (String.ofList number), 0)

/-- What a backslash and the character after it stand for. A pair without a meaning stays as it
is. -/
def unescape : Char → List Char
  | 'n' => ['\n']
  | 't' => ['\t']
  | '"' => ['"']
  | '\\' => ['\\']
  | c => ['\\', c]

/-- A control character that a text literal may not hold. -/
def isBarred (c : Char) : Bool :=
  Text.isControl c && c != '\r' && c != '\n'

/-- The inside of a text literal from some point on. -/
inductive Quotation
  /-- The value, and the number of characters up to and with the closing quote. -/
  | closed (value : List Char) (length : Nat)
  | unclosed
  /-- A barred character, and the number of characters in front of it. -/
  | barred (c : Char) (length : Nat)

/-- The same with a part of the literal in front. -/
def Quotation.after (value : List Char) (length : Nat) : Quotation → Quotation
  | .closed rest restLength => .closed (value ++ rest) (length + restLength)
  | .unclosed => .unclosed
  | .barred c restLength => .barred c (length + restLength)

/-- Reads a text literal behind its opening quote. -/
def quotation : List Char → Quotation
  | [] => .unclosed
  | '"' :: _ => .closed [] 1
  | '\\' :: [] => .unclosed
  | '\\' :: c :: rest => (quotation rest).after (unescape c) 2
  | c :: rest => if isBarred c then .barred c 0 else (quotation rest).after [c] 1

/-- Reads a text literal; `rest` stands behind the opening quote. -/
def readText (rest : List Char) : Reading :=
  match quotation rest with
  | .closed value length => .ok (.text (String.ofList value), length + 1)
  | .unclosed => .error (.unclosedText, 0)
  | .barred c length => .error (.illegalSymbol c, length + 1)

/-- The symbol at the head of a text; the longer one where two start alike. -/
def symbol? : List Char → Option (Symbol × Nat)
  | '=' :: '=' :: _ => some (.equal, 2)
  | '!' :: '=' :: _ => some (.notEqual, 2)
  | '<' :: '=' :: _ => some (.lessEqual, 2)
  | '>' :: '=' :: _ => some (.greaterEqual, 2)
  | '&' :: '&' :: _ => some (.andAnd, 2)
  | '|' :: '|' :: _ => some (.orOr, 2)
  | '=' :: _ => some (.assign, 1)
  | '!' :: _ => some (.bang, 1)
  | '<' :: _ => some (.less, 1)
  | '>' :: _ => some (.greater, 1)
  | '&' :: _ => some (.ampersand, 1)
  | '|' :: _ => some (.bar, 1)
  | '+' :: _ => some (.plus, 1)
  | '-' :: _ => some (.minus, 1)
  | '*' :: _ => some (.star, 1)
  | '/' :: _ => some (.slash, 1)
  | '^' :: _ => some (.caret, 1)
  | '$' :: _ => some (.dollar, 1)
  | '?' :: _ => some (.question, 1)
  | '(' :: _ => some (.openParen, 1)
  | ')' :: _ => some (.closeParen, 1)
  | '[' :: _ => some (.openBracket, 1)
  | ']' :: _ => some (.closeBracket, 1)
  | '\x7b' :: _ => some (.openBrace, 1)
  | '\x7d' :: _ => some (.closeBrace, 1)
  | ',' :: _ => some (.comma, 1)
  | ';' :: _ => some (.semicolon, 1)
  | _ => none

/-- Reads the token that starts with the given character. -/
def read (c : Char) (rest : List Char) : Reading :=
  if c = '"' then readText rest
  else if c.isDigit then readNumber (c :: rest)
  else if startsName c then readWord (c :: rest)
  else
    match symbol? (c :: rest) with
    | some (symbol, length) => .ok (.symbol symbol, length)
    | none => .error (.illegalSymbol c, 0)

/-- A letter goes on a name as well as starting it. -/
theorem continuesName_of_startsName {c : Char} (starts : startsName c = true) :
    continuesName c = true := by
  simp only [startsName, Bool.or_eq_true, decide_eq_true_eq] at starts
  rcases starts with letter | underscore
  · simp [continuesName, Text.isLetterOrNumeral, letter]
  · simp [continuesName, underscore]

theorem symbol?_length_pos {text : List Char} {symbol : Symbol} {length : Nat}
    (found : symbol? text = some (symbol, length)) : 0 < length := by
  unfold symbol? at found
  split at found <;> first | (cases found; decide) | cases found

theorem readNumber_length {text : List Char} {token : Token} {length : Nat}
    (success : readNumber text = .ok (token, length)) :
    length = (text.takeWhile isNumberChar).length := by
  unfold readNumber at success
  dsimp only at success
  repeat' split at success
  all_goals cases success
  rfl

/-- A token takes at least one character. -/
theorem read_length_pos {c : Char} {rest : List Char} {token : Token} {length : Nat}
    (success : read c rest = .ok (token, length)) : 0 < length := by
  unfold read at success
  split at success
  · unfold readText at success
    split at success <;> cases success
    omega
  split at success
  · next digit =>
    rw [readNumber_length success, List.takeWhile_cons_of_pos (by simp [isNumberChar, digit])]
    exact Nat.succ_pos _
  split at success
  · next starts =>
    unfold readWord at success
    rw [List.takeWhile_cons_of_pos (continuesName_of_startsName starts)] at success
    cases success
    exact Nat.succ_pos _
  · split at success
    · next found =>
      cases success
      exact symbol?_length_pos found
    · cases success

end Lexeme
end RuleScript
