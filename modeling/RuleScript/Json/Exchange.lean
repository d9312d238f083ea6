import RuleScript.Json.Printer
import RuleScript.Namespace.Store

/-!
Values and variables as JSON. Whole numbers stay whole and other numbers are written as doubles.
Variables come in as an object; objects inside it are groups, whose variables have the keys on
their way joined by points.
-/
namespace RuleScript

/-- Why a document is no value or holds no variables. -/
inductive ConvertError
  | notAnObject (kind : String)
  /-- An object inside an array, at the given path. -/
  | unsupportedObject (path : String)
  deriving DecidableEq, Repr

def ConvertError.message : ConvertError → String
  | .notAnObject kind => "expected a JSON object of variables, found " ++ kind
  | .unsupportedObject path => "JSON object at '" ++ path ++ "' cannot be stored as a value"

/-- The double for a number of a document. -/
def JsonNumber.toDouble : JsonNumber → Float
  | .integer n =>
    let magnitude := Double.ofNat n.natAbs
    if n < 0 then -magnitude else magnitude
  | .double x => x

/-- A number of a document as a value: the number that its text spells, else the decimal nearest to
its double. -/
def JsonNumber.toValue (n : JsonNumber) : Value :=
  match Decimal.numeral? (Json.writeNumber n) with
  | some d => .number d
  | none => .ofDouble n.toDouble

namespace Json

mutual

/-- A document at a path as a value. -/
def valueAt (path : String) : Json → Except ConvertError Value
  | .null => .ok .null
  | .boolean b => .ok (.boolean b)
  | .number n => .ok n.toValue
  | .text s => .ok (.text s)
  | .array items => (valuesAt path 0 items).map .array
  | .object _ => .error (.unsupportedObject path)

/-- The items of an array at a path as values, from an index on. -/
def valuesAt (path : String) (index : Nat) : List Json → Except ConvertError (List Value)
  | [] => .ok []
  | item :: rest => do
    let value ← item.valueAt (path ++ "[" ++ toString index ++ "]")
    let others ← valuesAt path (index + 1) rest
    pure (value :: others)

end

/-- A document as a value. -/
def toValue (document : Json) : Except ConvertError Value :=
  document.valueAt "$"

/-- A number of the language in a document: whole when its rounding is a whole number of 64 bits,
else a double. -/
def ofDecimal (settings : Settings) (n : Decimal) : JsonNumber :=
  let rounded := settings.round n
  let double := JsonNumber.double rounded.toDouble
  if rounded.isWhole then (rounded.toInt64?.map .integer).getD double else double

mutual

/-- A value as a document. -/
def ofValue (settings : Settings) : Value → Json
  | .null => .null
  | .boolean b => .boolean b
  | .number n => .number (ofDecimal settings n)
  | .text s => .text s
  | .array items => .array (ofValues settings items)

def ofValues (settings : Settings) : List Value → List Json
  | [] => []
  | value :: rest => ofValue settings value :: ofValues settings rest

end

/-- The name of a member inside a group; the group at the top has no name. -/
def memberName (group key : String) : String :=
  if group.isEmpty then key else group ++ "." ++ key

mutual

/-- Adds the variables of the members of a group. -/
def addMembers (group : String) (vars : Variables) :
    List (String × Json) → Except ConvertError Variables
  | [] => .ok vars
  | (key, document) :: rest => do
    let vars ← addMember (memberName group key) vars document
    addMembers group vars rest

/-- Adds a variable, or the variables of a group. -/
def addMember (name : String) (vars : Variables) : Json → Except ConvertError Variables
  | .object members => addMembers name vars members
  | .null => (Json.null.valueAt name).map (vars.set name)
  | .boolean b => ((Json.boolean b).valueAt name).map (vars.set name)
  | .number n => ((Json.number n).valueAt name).map (vars.set name)
  | .text s => ((Json.text s).valueAt name).map (vars.set name)
  | .array items => ((Json.array items).valueAt name).map (vars.set name)

end

/-- The variables that a document holds. -/
def toVariables (settings : Settings) : Json → Except ConvertError Variables
  | .object members => addMembers "" (.empty (!settings.caseSensitive)) members
  | other => .error (.notAnObject other.kindName)

/-- The variables as a document, in the order of their names. -/
def ofVariables (settings : Settings) (vars : Variables) : Json :=
  .object (vars.sortedNames.map fun name => (name, ofValue settings (vars.get name)))

end Json
end RuleScript
