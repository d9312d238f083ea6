/-!
JSON documents. A number is either a whole number of 64 bits or a double, and the members of an
object stand in the order of their keys, each key once.
-/
namespace RuleScript

inductive JsonNumber
  | integer (n : Int)
  | double (x : Float)

inductive Json
  | null
  | boolean (b : Bool)
  | number (n : JsonNumber)
  | text (s : String)
  | array (items : List Json)
  | object (members : List (String × Json))

namespace Json

instance : Inhabited Json := ⟨.null⟩

/-- A whole number as a document. -/
def ofInt (n : Int) : Json :=
  .number (.integer n)

/-- Puts a member in its place among members in the order of their keys. A member with the same key
gives way. -/
def insertMember (key : String) (value : Json) : List (String × Json) → List (String × Json)
  | [] => [(key, value)]
  | (other, old) :: rest =>
    if key < other then (key, value) :: (other, old) :: rest
    else if key = other then (key, value) :: rest
    else (other, old) :: insertMember key value rest

/-- The object with the given members; of two with one key the later counts. -/
def ofMembers (members : List (String × Json)) : Json :=
  .object (members.foldl (fun sorted (key, value) => insertMember key value sorted) [])

/-- The member of an object with a given key. -/
def get? (key : String) : Json → Option Json
  | .object members => members.lookup key
  | _ => none

/-- The name of the kind of document, for messages. -/
def kindName : Json → String
  | .null => "null"
  | .boolean _ => "boolean"
  | .number _ => "number"
  | .text _ => "string"
  | .array _ => "array"
  | .object _ => "object"

end Json
end RuleScript
