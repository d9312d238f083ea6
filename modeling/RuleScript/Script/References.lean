import RuleScript.Script.Tree
import RuleScript.Text.Blank

/-!
The names that a script refers to, found without running it: the variables that it reads or writes,
and the functions that it calls but does not declare. A host loads these before a run.
-/
namespace RuleScript

/-- A name in a script. -/
inductive Mention
  | variable (name : String)
  | call (name : String)
  deriving DecidableEq, Repr

mutual

/-- The names in an expression, as they are spelled. -/
def Expr.mentions : Expr → List Mention
  | .literal _ => []
  | .variable target => target.mentions
  | .assign target value => target.mentions ++ value.mentions
  | .binary _ left right => left.mentions ++ right.mentions
  | .not operand => operand.mentions
  | .builtin _ args => mentionsOfAll args
  | .call name args => .call name :: mentionsOfAll args
  | .substitute primary fallback => primary.mentions ++ fallback.mentions

def VarRef.mentions : VarRef → List Mention
  | ⟨name, index, _⟩ => .variable name :: mentionsOfIndex index

def mentionsOfIndex : Option Expr → List Mention
  | none => []
  | some index => index.mentions

def mentionsOfAll : List Expr → List Mention
  | [] => []
  | arg :: rest => arg.mentions ++ mentionsOfAll rest

end

mutual

/-- The names in a statement. -/
def Statement.mentions : Statement → List Mention
  | .expression value => value.mentions
  | .branch condition yes no => condition.mentions ++ mentionsOfStatements yes ++ mentionsOfElse no
  | .loop condition body => condition.mentions ++ mentionsOfStatements body

def mentionsOfElse : Option (List Statement) → List Mention
  | none => []
  | some statements => mentionsOfStatements statements

def mentionsOfStatements : List Statement → List Mention
  | [] => []
  | statement :: rest => statement.mentions ++ mentionsOfStatements rest

end

namespace Mention

/-- The variables among some mentions that are not hidden, as they are looked up. -/
def variableNames (caseSensitive : Bool) (hidden : List String) (mentions : List Mention) :
    List String :=
  mentions.filterMap fun
    | .variable name =>
      let folded := foldName caseSensitive name
      if hidden.contains folded then none else some folded
    | .call _ => none

/-- The functions called among some mentions, as they are looked up. -/
def calls (caseSensitive : Bool) (mentions : List Mention) : List String :=
  mentions.filterMap fun
    | .variable _ => none
    | .call name => some (foldName caseSensitive name)

end Mention

/-- The names that the body of a function has for itself: its parameters and its own name. -/
def FunctionDef.ownNames (caseSensitive : Bool) (function : FunctionDef) : List String :=
  (function.params.filter fun param => !(Text.trimChars param.toList).isEmpty).map
    (foldName caseSensitive) ++ [foldName caseSensitive function.name]

mutual

/-- The variables of a block that stands where some names are hidden. In a declared function only
the function's own names are hidden. -/
def Block.variableNames (caseSensitive : Bool) (hidden : List String) : Block → List String
  | ⟨functions, statements⟩ =>
    variableNamesOfFunctions caseSensitive functions ++
      Mention.variableNames caseSensitive hidden (mentionsOfStatements statements)

def FunctionDef.variableNames (caseSensitive : Bool) : FunctionDef → List String
  | ⟨name, params, body⟩ =>
    body.variableNames caseSensitive (FunctionDef.ownNames caseSensitive ⟨name, params, .empty⟩)

def variableNamesOfFunctions (caseSensitive : Bool) : List FunctionDef → List String
  | [] => []
  | function :: rest =>
    function.variableNames caseSensitive ++ variableNamesOfFunctions caseSensitive rest

end

mutual

/-- The functions that a block calls, bodies of declared functions included. -/
def Block.calls (caseSensitive : Bool) : Block → List String
  | ⟨functions, statements⟩ =>
    callsOfFunctions caseSensitive functions ++
      Mention.calls caseSensitive (mentionsOfStatements statements)

def FunctionDef.calls (caseSensitive : Bool) : FunctionDef → List String
  | ⟨_, _, body⟩ => body.calls caseSensitive

def callsOfFunctions (caseSensitive : Bool) : List FunctionDef → List String
  | [] => []
  | function :: rest => function.calls caseSensitive ++ callsOfFunctions caseSensitive rest

end

mutual

/-- The functions that a block declares, at any depth. -/
def Block.declared (caseSensitive : Bool) : Block → List String
  | ⟨functions, _⟩ => declaredFunctions caseSensitive functions

def FunctionDef.declared (caseSensitive : Bool) : FunctionDef → List String
  | ⟨name, _, body⟩ => foldName caseSensitive name :: body.declared caseSensitive

def declaredFunctions (caseSensitive : Bool) : List FunctionDef → List String
  | [] => []
  | function :: rest => function.declared caseSensitive ++ declaredFunctions caseSensitive rest

end

/-- Puts a name in its place among names in order, unless it is there. -/
def insertName (name : String) : List String → List String
  | [] => [name]
  | other :: rest =>
    if name < other then name :: other :: rest
    else if name = other then other :: rest
    else other :: insertName name rest

/-- The names in the order of their characters, each once. -/
def sortNames (names : List String) : List String :=
  names.foldl (fun sorted name => insertName name sorted) []

/-- The names a script refers to. -/
structure References where
  variableNames : List String
  functionNames : List String
  deriving DecidableEq, Repr

/-- The names a script refers to. Built-in functions are never among them. -/
def Program.references (program : Program) (settings : Settings) : References :=
  let declared := program.body.declared settings.caseSensitive
  ⟨sortNames (program.body.variableNames settings.caseSensitive []),
    sortNames ((program.body.calls settings.caseSensitive).filter (!declared.contains ·))⟩

end RuleScript
