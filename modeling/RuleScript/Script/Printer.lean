import RuleScript.Script.Tree

/-!
The text of an expression. Binary operations stand in parentheses, everything else as the grammar
has it.
-/
namespace RuleScript

mutual

def Expr.display : Expr → String
  | .literal value => value.quoteIfText value.display
  | .variable target => target.display
  | .assign target value => target.display ++ " = " ++ value.display
  | .binary op left right =>
    "(" ++ left.display ++ " " ++ op.spelling ++ " " ++ right.display ++ ")"
  | .not operand => "!" ++ operand.display
  | .builtin function args => function.name ++ "(" ++ ", ".intercalate (displayAll args) ++ ")"
  | .call name args => name ++ "(" ++ ", ".intercalate (displayAll args) ++ ")"
  | .substitute primary fallback => primary.display ++ "?" ++ fallback.display

def VarRef.display : VarRef → String
  | ⟨name, index, isLocal⟩ => (if isLocal then "var " else "") ++ name ++ displayIndex index

def displayIndex : Option Expr → String
  | none => ""
  | some index => "[" ++ index.display ++ "]"

def displayAll : List Expr → List String
  | [] => []
  | arg :: rest => arg.display :: displayAll rest

end

end RuleScript
