/-!
What can go wrong while a script runs.
-/
namespace RuleScript

inductive EvalError
  /-- An operation that its operands do not have. -/
  | typeError (message : String)
  | divisionByZero
  /-- A built-in function called with the wrong number of arguments. -/
  | argumentCount (function expected : String) (found : Nat)
  /-- A result that does not fit in a number. -/
  | overflow (operation : String)
  /-- A call of a name that no scope defines. -/
  | unresolvedFunction (name : String)
  /-- A signature of a host function that cannot be read. -/
  | invalidSignature (signature : String)
  /-- A state that no script leads to. -/
  | internal (message : String)
  deriving DecidableEq, Repr

namespace EvalError

def code : EvalError → Nat
  | .typeError _ => 100
  | .divisionByZero => 101
  | .argumentCount _ _ _ => 102
  | .overflow _ => 103
  | .unresolvedFunction _ => 200
  | .invalidSignature _ => 201
  | .internal _ => 900

def message : EvalError → String
  | .typeError message => "type error: " ++ message
  | .divisionByZero => "division by zero"
  | .argumentCount function expected found =>
    function ++ "() expects " ++ expected ++ " argument(s), got " ++ toString found
  | .overflow operation => "numeric overflow in '" ++ operation ++ "'"
  | .unresolvedFunction name => "unresolved function: " ++ name
  | .invalidSignature signature => "invalid function signature: " ++ signature
  | .internal message => "internal error: " ++ message

end EvalError
end RuleScript
