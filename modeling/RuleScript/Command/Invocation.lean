import RuleScript.Command.Arguments
import RuleScript.Decimal.Reader

/-!
The command line: general options, which may stand before or after the command, and the commands
with options of their own. An option given twice in one of the two places is an error; given once
in each, the one behind the command counts.
-/
namespace RuleScript.Command

/-- A command with its own arguments. -/
inductive Action
  | eval (source file input : Option String) (pretty trace showVariables : Bool)
  | check (source file : Option String)
  | references (source file : Option String) (pretty : Bool)
  | functions
  deriving DecidableEq, Repr

/-- A command line that was read. -/
structure Invocation where
  action : Action
  scale : Nat
  rounding : Option String
  caseInsensitive : Bool
  now : Option String
  verbose : Bool
  deriving DecidableEq, Repr

/-- Why a command line leads to no action. -/
inductive Halt
  | usage
  | version
  | help (command : Option String)
  deriving DecidableEq, Repr

/-- A number of digits: a whole number of 32 bits, with or without a sign. -/
def scale? (text : String) : Option Nat := do
  let (negative, digits) := Decimal.splitSign text.toList
  if digits.isEmpty then none
  else
    let values ← digits.mapM Decimal.digit?
    let size := values.foldl (fun n next => n * 10 + next) 0
    if size < 0x100000000 && (!negative || size == 0) then some size else none

/-- The options that every command has. -/
def generalOptions : List OptionSpec :=
  [⟨"scale", none, true, fun text => (scale? text).isSome⟩,
   .text "rounding" none,
   .flag "case-insensitive" none,
   .text "now" none,
   .flag "verbose" (some 'v'),
   .flag "help" (some 'h')]

def versionOption : OptionSpec := .flag "version" (some 'V')

/-- The option for a script in a file, whose name is not empty. -/
def fileOption : OptionSpec :=
  ⟨"file", some 'f', true, fun path => !path.isEmpty⟩

def prettyOption : OptionSpec := .flag "pretty" (some 'p')

/-- The options of a command. -/
def commandOptions? : String → Option (List OptionSpec)
  | "eval" =>
    some [fileOption, .text "input" (some 'i'), prettyOption, .flag "trace" none,
      .flag "show-vars" none]
  | "check" => some [fileOption]
  | "refs" => some [fileOption, prettyOption]
  | "functions" => some []
  | _ => none

/-- Adds options as they come in. A request for the version or for help ends the reading at once,
and so does an option that is there already. -/
def addGiven (command : Option String) (given : List Given) (more : List Given) :
    Except Halt (List Given) :=
  more.foldlM (fun given next =>
    if next.long = "version" then .error .version
    else if next.long = "help" then .error (.help command)
    else if given.any (·.long == next.long) then .error .usage
    else .ok (given ++ [next])) given

/-- The general options up to the command, the command, and the arguments behind it. -/
def readGeneral (given : List Given) :
    (steps : Nat) → List String → Except Halt (List Given × String × List String)
  | 0, _ => .error .usage
  | _ + 1, [] => .error .usage
  | steps + 1, arg :: rest =>
    match readItem (versionOption :: generalOptions) arg rest with
    | .options more rest => do readGeneral (← addGiven none given more) steps rest
    | .positional command rest => .ok (given, command, rest)
    | _ => .error .usage

/-- The options behind a command, and at most `room` positional arguments. -/
def readCommand (specs : List OptionSpec) (command : String) (room : Nat) (given : List Given)
    (texts : List String) :
    (steps : Nat) → List String → Except Halt (List Given × List String)
  | 0, _ => .error .usage
  | _ + 1, [] => .ok (given, texts)
  | steps + 1, arg :: rest =>
    match readItem specs arg rest with
    | .options more rest => do
      readCommand specs command room (← addGiven (some command) given more) texts steps rest
    | .positional text rest =>
      if texts.length < room then
        readCommand specs command room given (texts ++ [text]) steps rest
      else .error .usage
    | .divider rest =>
      if texts.length + rest.length ≤ room then .ok (given, texts ++ rest) else .error .usage
    | .wrong => .error .usage

/-- The value that an option was given. -/
def valueOf (given : List Given) (long : String) : Option String :=
  (given.find? (·.long == long)).bind (·.value)

def isGiven (given : List Given) (long : String) : Bool :=
  given.any (·.long == long)

/-- The action of a command with its own arguments. -/
def actionOf (command : String) (given : List Given) (source : Option String) : Action :=
  let file := valueOf given "file"
  match command with
  | "eval" =>
    .eval source file (valueOf given "input") (isGiven given "pretty") (isGiven given "trace")
      (isGiven given "show-vars")
  | "check" => .check source file
  | "refs" => .references source file (isGiven given "pretty")
  | _ => .functions

/-- A request for help on a command, or on all of them. -/
def helpOn : List String → Halt
  | [] => .help none
  | command :: _ => if (commandOptions? command).isSome then .help (some command) else .usage

namespace Invocation

/-- Reads a command line. -/
def parse (args : List String) : Except Halt Invocation := do
  let (before, command, rest) ← readGeneral [] (args.length + 1) args
  match commandOptions? command with
  | none => .error (if command = "help" then helpOn rest else .usage)
  | some own =>
    let room := if command = "functions" then 0 else 1
    let (behind, texts) ←
      readCommand (own ++ generalOptions) command room [] [] (rest.length + 1) rest
    let given := behind ++ before
    pure {
      action := actionOf command behind texts.head?
      scale := ((valueOf given "scale").bind scale?).getD 10
      rounding := valueOf given "rounding"
      caseInsensitive := isGiven given "case-insensitive"
      now := valueOf given "now"
      verbose := isGiven given "verbose" }

/-- The file that holds the script, when one was named. -/
def file? (invocation : Invocation) : Option String :=
  match invocation.action with
  | .eval _ file _ _ _ _ => file
  | .check _ file => file
  | .references _ file _ => file
  | .functions => none

/-- The variables come from standard input. -/
def readsInput (invocation : Invocation) : Bool :=
  match invocation.action with
  | .eval _ _ input _ _ _ => input.isNone
  | _ => false

end Invocation
end RuleScript.Command
