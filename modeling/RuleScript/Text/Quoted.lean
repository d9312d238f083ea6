import RuleScript.Text.Hidden

/-!
Characters and texts quoted inside a message. The quote, the backslash and the usual controls are
written with a backslash, and a hidden character is written by its number.
-/
namespace RuleScript.Text

/-- The number of a character in lower-case hexadecimal, without padding. -/
def hexadecimal (code : Nat) : List Char :=
  Nat.toDigits 16 code

/-- A character as it stands between a pair of the given quotes. -/
def escape (quote c : Char) : List Char :=
  if c = quote then ['\\', quote]
  else if c = '\\' then ['\\', '\\']
  else if c = '\t' then ['\\', 't']
  else if c = '\r' then ['\\', 'r']
  else if c = '\n' then ['\\', 'n']
  else if c.toNat = 0 then ['\\', '0']
  else if isHidden c then ['\\', 'u', '\x7b'] ++ hexadecimal c.toNat ++ ['\x7d']
  else [c]

/-- A character in single quotes. -/
def quoteChar (c : Char) : String :=
  String.ofList ('\'' :: escape '\'' c ++ ['\''])

/-- A text in double quotes. -/
def quoteText (text : String) : String :=
  String.ofList ('"' :: text.toList.flatMap (escape '"') ++ ['"'])

end RuleScript.Text
