import RuleScript.Script.Builtin
import RuleScript.Value

/-!
The tree of a script.
-/
namespace RuleScript

/-- Operators between two operands. -/
inductive Operator
  | or
  | and
  | add
  | subtract
  | multiply
  | divide
  | power
  | equal
  | notEqual
  | less
  | greater
  | lessEqual
  | greaterEqual
  | bitAnd
  | bitOr
  deriving DecidableEq, Repr

namespace Operator

def all : List Operator :=
  [.or, .and, .add, .subtract, .multiply, .divide, .power, .equal, .notEqual, .less, .greater,
   .lessEqual, .greaterEqual, .bitAnd, .bitOr]

/-- The spelling of an operator. -/
def spelling : Operator → String
  | .or => "||"
  | .and => "&&"
  | .add => "+"
  | .subtract => "-"
  | .multiply => "*"
  | .divide => "/"
  | .power => "^"
  | .equal => "=="
  | .notEqual => "!="
  | .less => "<"
  | .greater => ">"
  | .lessEqual => "<="
  | .greaterEqual => ">="
  | .bitAnd => "&"
  | .bitOr => "|"

def isComparison : Operator → Bool
  | .equal | .notEqual | .less | .greater | .lessEqual | .greaterEqual => true
  | _ => false

end Operator

mutual

/-- A variable, or one element of it when there is an index. A local one is looked up and written
in the innermost namespace only. -/
structure VarRef where
  name : String
  index : Option Expr
  isLocal : Bool

inductive Expr
  | literal (value : Value)
  | variable (target : VarRef)
  | assign (target : VarRef) (value : Expr)
  | binary (op : Operator) (left right : Expr)
  | not (operand : Expr)
  | builtin (function : Builtin) (args : List Expr)
  | call (name : String) (args : List Expr)
  /-- The first operand, or the second where the first is null. -/
  | substitute (primary fallback : Expr)

end

def Expr.isLiteral : Expr → Bool
  | .literal _ => true
  | _ => false

inductive Statement
  | expression (value : Expr)
  | branch (condition : Expr) (yes : List Statement) (no : Option (List Statement))
  | loop (condition : Expr) (body : List Statement)

/-- A statement that ends in a brace needs no separator after it. -/
def Statement.isBraced : Statement → Bool
  | .expression _ => false
  | _ => true

mutual

/-- A function written in the language. Its body stores the result under the function's own name.
A parameter with a blank name passes over an argument. -/
structure FunctionDef where
  name : String
  params : List String
  body : Block

/-- Statements, and the functions declared beside them. The functions are known before the first
statement runs. -/
structure Block where
  functions : List FunctionDef
  statements : List Statement

end

namespace Block

def empty : Block := ⟨[], []⟩

def addFunction (block : Block) (function : FunctionDef) : Block :=
  ⟨function :: block.functions, block.statements⟩

def addStatement (block : Block) (statement : Statement) : Block :=
  ⟨block.functions, statement :: block.statements⟩

end Block

/-- A script that was read, with the source it was read from. -/
structure Program where
  source : String
  body : Block

end RuleScript
