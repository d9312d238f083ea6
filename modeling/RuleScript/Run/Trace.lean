import RuleScript.Run.Error
import RuleScript.Script.Printer

/-!
What a traced run reports: the source, then each expression with the values of its operands and
its result, or the error that stands in its place.
-/
namespace RuleScript

inductive TraceEvent
  | source (text : String)
  | result (node : Expr) (operands : List Value) (value : Value)
  | failure (node : Expr) (operands : List Value) (error : EvalError)
  /-- A value that the script asked to be shown. -/
  | shown (value : Value)

namespace TraceEvent

/-- A node, followed by the values of its operands when it has any. -/
def describe (settings : Settings) (node : Expr) (operands : List Value) : String :=
  if operands.isEmpty then node.display
  else
    let rendered := operands.map fun value => value.quoteIfText (value.render settings)
    node.display ++ " [" ++ ", ".intercalate rendered ++ "]"

def message (settings : Settings) : TraceEvent → String
  | .source text => "source: " ++ text
  | .result node operands value =>
    describe settings node operands ++ " => " ++ value.render settings
  | .failure node operands error =>
    describe settings node operands ++ " failed: " ++ error.message
  | .shown value => "debug: " ++ value.render settings

end TraceEvent
end RuleScript
