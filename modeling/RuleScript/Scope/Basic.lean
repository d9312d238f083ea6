import RuleScript.Namespace.Basic
import RuleScript.Scope.Signature
import RuleScript.Script.Parser

/-!
Where functions are found. A scope is a stack of levels, each with functions written in the
language and functions of the host. The nearest level that has a name wins, and on a level a script
function goes before a host function.
-/
namespace RuleScript

/-- What a function of the host answers to the variables that it sees, and what it writes on the
way. -/
abbrev NativeBody := Namespace → Settings → Except EvalError Value × List Write

/-- A function of the host. It sees its parameters in a frame of its own over the variables of the
caller; what it writes there is gone when it returns. -/
structure NativeFunction where
  signature : Signature
  body : NativeBody

/-- The functions of one level. -/
structure Level where
  scripts : Registry FunctionDef
  natives : Registry NativeFunction

namespace Level

def empty : Level := ⟨.empty, .empty⟩

/-- Adds a script function in place of one with the same name. -/
def defineScript (level : Level) (function : FunctionDef) : Level :=
  { level with scripts := level.scripts.insert function.name function }

/-- Adds script functions in turn. -/
def defineScripts (level : Level) (functions : List FunctionDef) : Level :=
  functions.foldl defineScript level

/-- Adds a host function in place of one with the same name. -/
def defineNative (level : Level) (signature : String) (body : NativeBody) :
    Except EvalError Level := do
  let parsed ← Signature.parse signature
  pure { level with natives := level.natives.insert parsed.name ⟨parsed, body⟩ }

/-- Adds every function that a script declares at its top; its statements are passed over. Gives
the number of declarations too. -/
def loadFunctions (level : Level) (settings : Settings) (source : String) :
    Except ParseError (Level × Nat) := do
  let program ← Program.parse settings source
  pure (level.defineScripts program.body.functions, program.body.functions.length)

/-- The names of a sorted list, each once. -/
def dropRepeats : List String → List String
  | [] => []
  | name :: rest => if rest.head? = some name then dropRepeats rest else name :: dropRepeats rest

/-- The names of the level's functions in the order of their characters. -/
def functionNames (level : Level) : List String :=
  dropRepeats ((level.natives.names ++ level.scripts.names).mergeSort fun a b => decide (a ≤ b))

end Level

/-- The entry that a name means. -/
def Registry.find? {α : Type} (registry : Registry α) (caseSensitive : Bool) (name : String) :
    Option α :=
  if caseSensitive then registry.get? name
  else (registry.entries.find? fun entry => sameName false entry.1 name).map Prod.snd

/-- Levels, the innermost first. -/
inductive Scope
  | root (level : Level)
  | child (level : Level) (outer : Scope)

/-- A function that was found. A script function runs at the place that it was found at. -/
inductive Resolved (σ : Type)
  | script (function : FunctionDef) (home : σ)
  | native (function : NativeFunction)

/-- How functions are found from a place: what place the inside of a block is, and what a name
means. -/
structure Lookup (σ : Type) where
  enter : σ → List FunctionDef → σ
  resolve? : Bool → String → σ → Option (Resolved σ)

namespace Scope

/-- No functions. -/
def empty : Scope := .root .empty

/-- The innermost level. -/
def level : Scope → Level
  | .root level => level
  | .child level _ => level

/-- The function with a name on the innermost level. -/
def resolveHere? (scope : Scope) (caseSensitive : Bool) (name : String) : Option (Resolved Scope) :=
  match scope.level.scripts.find? caseSensitive name with
  | some function => some (.script function scope)
  | none => (scope.level.natives.find? caseSensitive name).map .native

/-- The nearest function with a name. -/
def resolve? (caseSensitive : Bool) (name : String) : Scope → Option (Resolved Scope)
  | .root level => (Scope.root level).resolveHere? caseSensitive name
  | .child level outer =>
    match (Scope.child level outer).resolveHere? caseSensitive name with
    | some found => some found
    | none => outer.resolve? caseSensitive name

def isDefined (scope : Scope) (caseSensitive : Bool) (name : String) : Bool :=
  (scope.resolve? caseSensitive name).isSome

/-- The scope inside a block that declares the given functions. -/
def enter (scope : Scope) (functions : List FunctionDef) : Scope :=
  if functions.isEmpty then scope else .child (Level.empty.defineScripts functions) scope

/-- Functions are found level by level. -/
def lookup : Lookup Scope := ⟨enter, resolve?⟩

end Scope
end RuleScript
