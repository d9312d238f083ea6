import RuleScript.Calendar.Iso
import RuleScript.Command.Check
import RuleScript.Command.Invocation

/-!
What the program prints and the code it ends with.
-/
namespace RuleScript.Command

/-- The output of the program. -/
structure Report where
  exitCode : Nat
  output : String
  errors : String
  deriving DecidableEq, Repr

/-- What the program finds outside: the clock, standard input and the file it was given. -/
structure Surroundings where
  now : Int
  input : String
  /-- The text of the file, or why it cannot be read. -/
  file : Except String String

namespace Invocation

/-- The settings that the general options ask for. -/
def settings (invocation : Invocation) (now : Int) : Except Failure Settings := do
  let base := { (Settings.standard now).withScale invocation.scale with
    caseSensitive := !invocation.caseInsensitive }
  let rounding ← match invocation.rounding with
    | none => pure base.rounding
    | some name =>
      match Rounding.ofName? name with
      | some mode => pure mode
      | none => .error (.invalidOption ("unknown rounding mode '" ++ name ++ "'"))
  let now ← match invocation.now with
    | none => pure base.now
    | some text =>
      match Instant.ofIso? text with
      | some instant => pure instant.millis
      | none => .error (.invalidOption ("'" ++ text ++ "' is not an ISO-8601 date"))
  pure { base with rounding := rounding, now := now }

end Invocation

/-- The script: given in place, or in a file. -/
def sourceOf (source file : Option String) (outside : Surroundings) : Except Failure String :=
  match source, file with
  | some source, none => .ok source
  | none, some _ =>
    match outside.file with
    | .ok text => .ok text
    | .error reason => .error (.file reason)
  | some _, some _ =>
    .error (.invalidOption "give the script either inline or with --file, not both")
  | none, none => .error (.invalidOption "no script given; pass it inline or with --file")

/-- A document on one line or on several. -/
def layOut (pretty : Bool) (document : Json) : String :=
  if pretty then document.pretty else document.compact

/-- The text that a command prints, and its messages. -/
def perform (invocation : Invocation) (outside : Surroundings) :
    Except Failure (String × String) := do
  let settings ← invocation.settings outside.now
  match invocation.action with
  | .eval source file input pretty trace showVariables =>
    let source ← sourceOf source file outside
    let given := some (input.getD outside.input)
    match ← check ⟨source, given, false, trace, showVariables⟩ settings with
    | .syntaxValid => pure ("", "")
    | .success result after log =>
      let document := match after with
        | some after => Json.object [("result", result), ("variables", after)]
        | none => result
      pure (layOut pretty document ++ "\n",
        String.join (log.map fun line => "trace: " ++ line ++ "\n"))
  | .check source file =>
    let source ← sourceOf source file outside
    let _ ← check ⟨source, none, true, false, false⟩ settings
    pure ("Syntax is valid\n", "")
  | .references source file pretty =>
    let source ← sourceOf source file outside
    let document ← references source settings
    pure (layOut pretty document ++ "\n", "")
  | .functions => pure (overview, "")

/-- The name and version of the program. -/
def versionText : String := "tally 0.1.0\n"

/-- What is said about a command line that cannot be read. -/
def usageText : String := "error: the arguments cannot be read; see 'tally --help'\n"

/-- The commands and the options that all of them have. -/
def helpText : String :=
  "Usage: tally [OPTIONS] <COMMAND>\n\nCommands:\n" ++
    "  eval       Run a script and print its result as JSON\n" ++
    "  check      Validate script syntax without running it\n" ++
    "  refs       List the variables and external functions a script refers to\n" ++
    "  functions  List the built-in functions\n\nOptions:\n" ++
    "      --scale <SCALE>        Fractional digits kept after *, / and ^\n" ++
    "      --rounding <ROUNDING>  Rounding mode\n" ++
    "      --case-insensitive     Match names regardless of case\n" ++
    "      --now <NOW>            Freeze the clock used by date functions\n" ++
    "  -v, --verbose              Log parser and evaluator activity\n"

/-- What the program prints when a command line leads to no action. -/
def Halt.report : Halt → Report
  | .usage => ⟨2, "", usageText⟩
  | .version => ⟨0, versionText, ""⟩
  | .help _ => ⟨0, helpText, ""⟩

/-- What the program does when it is called as an invocation says. -/
def Invocation.report (invocation : Invocation) (outside : Surroundings) : Report :=
  match perform invocation outside with
  | .ok (output, errors) => ⟨0, output, errors⟩
  | .error failure => ⟨failure.exitCode, "", failure.message ++ "\n"⟩

end RuleScript.Command
