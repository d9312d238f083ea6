import RuleScript.Json.Exchange
import RuleScript.Json.Reader
import RuleScript.Run.Machine
import RuleScript.Script.References

/-!
What the commands do: run a script against variables given as JSON, check its syntax, list the
names it refers to, and list the built-in functions.
-/
namespace RuleScript.Command

/-- Why a command failed. -/
inductive Failure
  | parse (error : ParseError)
  | eval (error : EvalError)
  /-- The variables are no JSON document. -/
  | json
  | badVariables (error : ConvertError)
  /-- A file could not be read. -/
  | file (reason : String)
  | invalidOption (reason : String)
  /-- The script was stopped before it ended. -/
  | unfinished
  deriving DecidableEq, Repr

namespace Failure

def message : Failure → String
  | .parse error => error.message
  | .eval error => "evaluation error E" ++ toString error.code ++ ": " ++ error.message
  | .json => "invalid JSON"
  | .badVariables error => "invalid variables: " ++ error.message
  | .file reason => "IO error: " ++ reason
  | .invalidOption reason => "invalid option: " ++ reason
  | .unfinished => "the script did not end"

/-- The exit code: 2 when the script is at fault. -/
def exitCode : Failure → Nat
  | .parse _ => 2
  | .eval _ => 2
  | _ => 1

end Failure

/-- What to run, and what to report about it. -/
structure CheckOptions where
  source : String
  /-- Variables as JSON text; blank text counts as none. -/
  input : Option String
  syntaxOnly : Bool
  trace : Bool
  showVariables : Bool

inductive CheckResult
  | syntaxValid
  | success (result : Json) (after : Option Json) (trace : List String)

/-- The variables that a run starts with. -/
def initialVariables (settings : Settings) : Option String → Except Failure Variables
  | none => .ok (.empty (!settings.caseSensitive))
  | some text =>
    if (Text.trimChars text.toList).isEmpty then .ok (.empty (!settings.caseSensitive))
    else
      match Json.parse? text with
      | none => .error .json
      | some document =>
        match document.toVariables settings with
        | .ok vars => .ok vars
        | .error error => .error (.badVariables error)

/-- Reads a script. -/
def compile (settings : Settings) (source : String) : Except Failure Program :=
  match Program.parse settings source with
  | .ok program => .ok program
  | .error error => .error (.parse error)

/-- The entries of a store as standard variables. -/
def storeVariables : Store → Variables
  | .standard vars => vars
  | .host store => ⟨store.entries, false⟩

/-- Runs a script, or only reads it. -/
def check (options : CheckOptions) (settings : Settings) : Except Failure CheckResult := do
  let program ← compile settings options.source
  if options.syntaxOnly then pure .syntaxValid
  else
    let vars ← initialVariables settings options.input
    let start := Namespace.root (.standard vars)
    let outcome := if options.trace then program.trace settings .empty start
      else program.run settings .empty start
    match outcome.result with
    | .error (.failed error) => .error (.eval error)
    | .error .outOfFuel => .error .unfinished
    | .ok value =>
      let after := storeVariables outcome.names.store
      pure (.success (Json.ofValue settings value)
        (if options.showVariables then some (Json.ofVariables settings after) else none)
        (outcome.log.map (TraceEvent.message settings)))

/-- The names that a script refers to, as a document. -/
def references (source : String) (settings : Settings) : Except Failure Json := do
  let program ← compile settings source
  let found := program.references settings
  pure (.object [("functions", .array (found.functionNames.map .text)),
    ("variables", .array (found.variableNames.map .text))])

/-- The built-in functions under the headings of the overview. -/
def groups : List (String × List Builtin) :=
  [("MATH", [.sin, .cos, .asin, .acos, .tan, .atan, .exp, .ln, .log, .neg, .abs, .sqrt, .round,
      .floor, .ceil, .min, .max]),
   ("VALUES", [.size, .isString, .isNumeric, .isArray, .isNull, .toArray, .toString, .toNumber,
      .debug]),
   ("DATES", [.day, .month, .year, .dayOfYear, .daysInMonth, .now, .iso, .daysBeforeNow,
      .hoursBeforeNow])]

/-- A heading and a line of help for each of its functions. -/
def groupText : String × List Builtin → String
  | (title, functions) =>
    "\n" ++ title ++ "\n" ++ String.join (functions.map fun f => "  " ++ f.summary ++ "\n")

/-- The overview of the built-in functions. -/
def overview : String :=
  "BUILT-IN FUNCTIONS\n" ++ String.join (groups.map groupText) ++
    "\nDates are UTC. Date arguments are ISO-8601 strings or epoch milliseconds;\n" ++
    "omitted arguments mean \"now\".\n"

end RuleScript.Command
