import RuleScript.Run.Error
import RuleScript.Text.Blank

/-!
Signatures of host functions: a name and a list of parameters in parentheses. A parameter may be
blank; it keeps its place in the list.
-/
namespace RuleScript

structure Signature where
  name : String
  params : List String
  deriving DecidableEq, Repr

namespace Signature

/-- A character that may start a name in a signature. -/
def startsName (c : Char) : Bool :=
  c.isAlpha || c = '_'

/-- A character that may go on a name in a signature. -/
def continuesName (c : Char) : Bool :=
  c.isAlpha || c.isDigit || c = '_' || c = '.'

/-- A name as signatures have it: ASCII letters, digits, underscores and points. -/
def isName : List Char → Bool
  | [] => false
  | c :: rest => startsName c && rest.all continuesName

/-- The pieces of a text between commas. -/
def pieces : List Char → List (List Char)
  | [] => [[]]
  | c :: rest =>
    if c = ',' then [] :: pieces rest
    else
      match pieces rest with
      | first :: others => (c :: first) :: others
      | [] => [[c]]

/-- The parameters in the text between the parentheses. -/
def params? (inner : List Char) : Option (List String) :=
  if (Text.trimChars inner).isEmpty then some []
  else
    let params := (pieces inner).map Text.trimChars
    if params.all fun param => param.isEmpty || isName param then some (params.map String.ofList)
    else none

/-- The text up to a closing parenthesis that ends it, blanks aside. -/
def beforeClosing? (text : List Char) : Option (List Char) :=
  match (Text.trimEnd text).reverse with
  | ')' :: inner => some inner.reverse
  | _ => none

/-- Reads a signature. The text between the parentheses stays on one line. -/
def read? (text : List Char) : Option Signature := do
  let text := Text.trimStart text
  let name := text.takeWhile continuesName
  match Text.trimStart (text.dropWhile continuesName) with
  | '(' :: rest =>
    let inner ← beforeClosing? rest
    if isName name && !inner.contains '\n' then
      let params ← params? inner
      pure ⟨String.ofList name, params⟩
    else none
  | _ => none

/-- Reads a signature or says which one cannot be read. -/
def parse (text : String) : Except EvalError Signature :=
  match read? text.toList with
  | some signature => .ok signature
  | none => .error (.invalidSignature text)

end Signature
end RuleScript
