/-!
Blank characters, control characters, and trimming. Blanks are the characters with the Unicode
property White_Space; controls are the two control ranges.
-/
namespace RuleScript.Text

/-- A white-space character. -/
def isBlank (c : Char) : Bool :=
  let code := c.toNat
  (0x09 ≤ code && code ≤ 0x0D) || code = 0x20 || code = 0x85 || code = 0xA0 || code = 0x1680 ||
    (0x2000 ≤ code && code ≤ 0x200A) || code = 0x2028 || code = 0x2029 || code = 0x202F ||
    code = 0x205F || code = 0x3000

/-- A control character. -/
def isControl (c : Char) : Bool :=
  c.toNat < 0x20 || (0x7F ≤ c.toNat && c.toNat < 0xA0)

/-- The characters without the blanks in front. -/
def trimStart (text : List Char) : List Char :=
  text.dropWhile isBlank

/-- The characters without the blanks at the end. -/
def trimEnd (text : List Char) : List Char :=
  (text.reverse.dropWhile isBlank).reverse

/-- The characters between the blanks at either end. -/
def trimChars (text : List Char) : List Char :=
  trimEnd (trimStart text)

/-- The text between the blanks at either end. -/
def trim (text : String) : String :=
  String.ofList (trimChars text.toList)

end RuleScript.Text
