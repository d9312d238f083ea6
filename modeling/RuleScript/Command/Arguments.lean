/-!
Reading the arguments of a command line against a list of options. An option has a long name and
may have a short one; it either stands alone or takes a value, which may be joined to it or be the
next argument. Short options that stand alone may share a hyphen.
-/
namespace RuleScript.Command

/-- An option that a command has. -/
structure OptionSpec where
  long : String
  short : Option Char
  takesValue : Bool
  /-- The texts that are values of the option. -/
  accepts : String → Bool

/-- An option that stands alone. -/
def OptionSpec.flag (long : String) (short : Option Char) : OptionSpec :=
  ⟨long, short, false, fun _ => false⟩

/-- An option that takes any text. -/
def OptionSpec.text (long : String) (short : Option Char) : OptionSpec :=
  ⟨long, short, true, fun _ => true⟩

/-- An option as it was given, by its long name. -/
structure Given where
  long : String
  value : Option String
  deriving DecidableEq, Repr

/-- The value that the next argument gives. An argument that looks like an option gives none. -/
def nextValue? : List String → Option (String × List String)
  | [] => none
  | value :: rest => if value.startsWith "-" && value != "-" then none else some (value, rest)

/-- Takes an option with a value. -/
def takeValue? (spec : OptionSpec) (joined : Option String) (rest : List String) :
    Option (Given × List String) := do
  let (value, rest) ← match joined with
    | some value => some (value, rest)
    | none => nextValue? rest
  if spec.accepts value then pure (⟨spec.long, some value⟩, rest) else none

/-- Takes a long option without its hyphens. -/
def takeLong? (specs : List OptionSpec) (body : List Char) (rest : List String) :
    Option (Given × List String) := do
  let name := String.ofList (body.takeWhile (· != '='))
  let joined := match body.dropWhile (· != '=') with
    | _ :: value => some (String.ofList value)
    | [] => none
  let spec ← specs.find? (·.long == name)
  if spec.takesValue then takeValue? spec joined rest
  else if joined.isSome then none
  else pure (⟨spec.long, none⟩, rest)

/-- What is joined to a short option with a value: the characters behind it, an equals sign in
front of them aside. -/
def joinedValue? : List Char → Option String
  | [] => none
  | '=' :: value => some (String.ofList value)
  | value => some (String.ofList value)

/-- Takes the short options behind one hyphen. -/
def takeShort? (specs : List OptionSpec) (rest : List String) :
    List Char → Option (List Given × List String)
  | [] => some ([], rest)
  | c :: others => do
    let spec ← specs.find? (·.short == some c)
    if spec.takesValue then
      let (given, rest) ← takeValue? spec (joinedValue? others) rest
      pure ([given], rest)
    else
      let (given, rest) ← takeShort? specs rest others
      pure (⟨spec.long, none⟩ :: given, rest)

/-- What the next argument is. -/
inductive Item
  | options (given : List Given) (rest : List String)
  | positional (text : String) (rest : List String)
  /-- Two hyphens: every further argument is positional. -/
  | divider (rest : List String)
  | wrong

/-- Reads the next argument, and the one behind it where it is a value. -/
def readItem (specs : List OptionSpec) (arg : String) (rest : List String) : Item :=
  match arg.toList with
  | ['-', '-'] => .divider rest
  | '-' :: '-' :: body =>
    match takeLong? specs body rest with
    | some (given, rest) => .options [given] rest
    | none => .wrong
  | '-' :: c :: others =>
    match takeShort? specs rest (c :: others) with
    | some (given, rest) => .options given rest
    | none => .wrong
  | _ => .positional arg rest

end RuleScript.Command
