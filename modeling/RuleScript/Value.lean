import RuleScript.Decimal.Double
import RuleScript.Decimal.Printer
import RuleScript.Decimal.Reader
import RuleScript.Settings

/-!
The values of the language, how they count as conditions and numbers, and how they are written.
-/
namespace RuleScript

inductive Value
  | null
  | number (n : Decimal)
  | text (s : String)
  | boolean (b : Bool)
  | array (items : List Value)
  deriving Repr, Inhabited

namespace Value

/-- A whole number as a value. -/
def ofInt (n : Int) : Value :=
  .number (Decimal.ofInt n)

/-- A double as a value; one that is no decimal is null. -/
def ofDouble (x : Float) : Value :=
  match Decimal.ofDouble? x with
  | some n => .number n
  | none => .null

def isNull : Value → Bool
  | .null => true
  | _ => false

def isArray : Value → Bool
  | .array _ => true
  | _ => false

/-- The name of the kind of value, for messages. -/
def kindName : Value → String
  | .null => "null"
  | .number _ => "numeric"
  | .text _ => "string"
  | .boolean _ => "boolean"
  | .array _ => "array"

/-- The text spells `true` in any mix of cases, blanks around it aside. -/
def spellsTrue (s : String) : Bool :=
  (Text.trimChars s.toList).map Char.toLower == "true".toList

/-- The value as a condition. A text counts when it spells `true` or a number other than zero. -/
def isTrue : Value → Bool
  | .null => false
  | .boolean b => b
  | .number n => !n.isZero
  | .text s => spellsTrue s || (Decimal.numeral? s).any (!·.isZero)
  | .array items => !items.isEmpty

/-- The value as a number: a number itself, or the one that a text spells. -/
def number? : Value → Option Decimal
  | .number n => some n
  | .text s => Decimal.numeral? s
  | _ => none

/-- The value as a double. -/
def double? (v : Value) : Option Float :=
  v.number?.map Decimal.toDouble

/-- The whole part of the value as a number, when it fits in 64 bits. -/
def int64? (v : Value) : Option Int :=
  v.number?.bind Decimal.toInt64?

/-- A text inside an array stands in quotes, as it is. -/
def quoteIfText (v : Value) (written : String) : String :=
  match v with
  | .text _ => "\"" ++ written ++ "\""
  | _ => written

mutual

/-- The text of a value with every digit. -/
def display : Value → String
  | .null => "null"
  | .number n => n.toText
  | .text s => s
  | .boolean true => "true"
  | .boolean false => "false"
  | .array items => "[" ++ displayItems "" items ++ "]"

/-- The items one after another. The first has the given text in front, and each other a comma. -/
def displayItems (front : String) : List Value → String
  | [] => ""
  | item :: rest => front ++ item.quoteIfText item.display ++ displayItems ", " rest

end

mutual

/-- The text of a value with its numbers rounded as the settings say. -/
def render (settings : Settings) : Value → String
  | .number n => (settings.round n).toText
  | .array items => "[" ++ ", ".intercalate (renderItems settings items) ++ "]"
  | .null => display .null
  | .text s => display (.text s)
  | .boolean b => display (.boolean b)

def renderItems (settings : Settings) : List Value → List String
  | [] => []
  | item :: rest => item.quoteIfText (item.render settings) :: renderItems settings rest

end

end Value
end RuleScript
