import RuleScript.Double.Shortest
import RuleScript.Json.Basic

/-!
The text of a JSON document, on one line or indented by two spaces. Doubles are written with the
fewest digits that read back.
-/
namespace RuleScript.Json

/-- Doubles are written positionally from `0.00001` up to sixteen digits before the point. -/
def doubleFormat : Double.Format := ⟨-5, 15⟩

/-- The text of a number. What is no finite number has no place in a document. -/
def writeNumber : JsonNumber → String
  | .integer n => toString n
  | .double x =>
    match Double.parts? x with
    | some parts => Double.write doubleFormat parts
    | none => "null"

/-- A lower-case hexadecimal digit. -/
def hexDigit (n : Nat) : Char :=
  Nat.digitChar n

/-- A character inside a text. -/
def escape (c : Char) : List Char :=
  if c = '"' then ['\\', '"']
  else if c = '\\' then ['\\', '\\']
  else if c = '\n' then ['\\', 'n']
  else if c = '\r' then ['\\', 'r']
  else if c = '\t' then ['\\', 't']
  else if c.toNat = 0x08 then ['\\', 'b']
  else if c.toNat = 0x0C then ['\\', 'f']
  else if c.toNat < 0x20 then
    ['\\', 'u', '0', '0', hexDigit (c.toNat / 16), hexDigit (c.toNat % 16)]
  else [c]

def writeText (s : String) : String :=
  String.ofList ('"' :: s.toList.flatMap escape ++ ['"'])

mutual

/-- The document on one line. -/
def compact : Json → String
  | .null => "null"
  | .boolean true => "true"
  | .boolean false => "false"
  | .number n => writeNumber n
  | .text s => writeText s
  | .array items => "[" ++ ",".intercalate (compactItems items) ++ "]"
  | .object members => "\x7b" ++ ",".intercalate (compactMembers members) ++ "\x7d"

def compactItems : List Json → List String
  | [] => []
  | item :: rest => item.compact :: compactItems rest

def compactMembers : List (String × Json) → List String
  | [] => []
  | (key, value) :: rest => (writeText key ++ ":" ++ value.compact) :: compactMembers rest

end

/-- A new line at a depth of nesting. -/
def newLine (depth : Nat) : String :=
  String.ofList ('\n' :: List.replicate (2 * depth) ' ')

/-- Parts on lines of their own between brackets; without parts the brackets touch. -/
def enclose (opening closing : String) (depth : Nat) (parts : List String) : String :=
  if parts.isEmpty then opening ++ closing
  else
    opening ++ newLine (depth + 1) ++ ("," ++ newLine (depth + 1)).intercalate parts ++
      newLine depth ++ closing

mutual

/-- The document on several lines, from a depth of nesting on. -/
def indented (depth : Nat) : Json → String
  | .array items => enclose "[" "]" depth (indentedItems (depth + 1) items)
  | .object members => enclose "\x7b" "\x7d" depth (indentedMembers (depth + 1) members)
  | .null => "null"
  | .boolean true => "true"
  | .boolean false => "false"
  | .number n => writeNumber n
  | .text s => writeText s

def indentedItems (depth : Nat) : List Json → List String
  | [] => []
  | item :: rest => item.indented depth :: indentedItems depth rest

def indentedMembers (depth : Nat) : List (String × Json) → List String
  | [] => []
  | (key, value) :: rest =>
    (writeText key ++ ": " ++ value.indented depth) :: indentedMembers depth rest

end

/-- The document on several lines. -/
def pretty (document : Json) : String :=
  document.indented 0

end RuleScript.Json
