import RuleScript.Run.Builtins
import RuleScript.Run.Operators
import RuleScript.Run.Trace
import RuleScript.Scope.Basic

/-!
Running a script. A run works on a namespace and, when it is traced, keeps a log of every node. In
a traced run a node that fails is reported and counts as null; otherwise its error ends the run.

Functions are found by the place of the call in the source: the body of a function runs in the
scope that the function was found at. Variables are found by the calls under way: the callee has a
frame over the namespace of its caller, and that frame is gone when it returns.

The functions recur on fuel, which bounds how deep calls nest and how often a loop turns. Running
out of it is an outcome of its own.
-/
namespace RuleScript

/-- Why a run ended without a value. -/
inductive Stop
  | failed (error : EvalError)
  | outOfFuel
  deriving DecidableEq, Repr

/-- What a run works on. The log and the operands of the node at hand have the newest first; they
stay empty in a run that is not traced. -/
structure Machine where
  names : Namespace
  log : List TraceEvent
  operands : List Value

/-- What does not change during a run. -/
structure Context (σ : Type) where
  settings : Settings
  traced : Bool
  lookup : Lookup σ

abbrev Run := ExceptT Stop (StateM Machine)

namespace Run

theorem bind_ok {α β : Type} {body : Run α} {next : α → Run β} {machine after : Machine} {value : α}
    (ran : body machine = (.ok value, after)) : (body >>= next) machine = next value after := by
  change (match body machine with | (result, after) => ExceptT.bindCont next result after) = _
  rw [ran]
  rfl

theorem bind_error {α β : Type} {body : Run α} {next : α → Run β} {machine after : Machine}
    {stop : Stop} (ran : body machine = (.error stop, after)) :
    (body >>= next) machine = (.error stop, after) := by
  change (match body machine with | (result, after) => ExceptT.bindCont next result after) = _
  rw [ran]
  rfl

/-- What stops a part of a run stops all of it. -/
theorem bind_stop {α β : Type} {body : Run α} {next : α → Run β} {machine : Machine} {stop : Stop}
    (ran : (body machine).1 = .error stop) : ((body >>= next) machine).1 = .error stop := by
  rw [bind_error (Prod.ext ran rfl : body machine = (.error stop, (body machine).2))]

/-- Ends the run with an error unless there is a value. -/
def ofExcept {α : Type} : Except EvalError α → Run α
  | .ok value => pure value
  | .error error => throw (.failed error)

def fail {α : Type} (error : EvalError) : Run α :=
  throw (.failed error)

/-- What the innermost frame has under a name. -/
def ownValue (name : String) : Run Value := fun machine =>
  (.ok (machine.names.getLocal name), machine)

/-- Keeps the value of an operand for the report on the node at hand. -/
def note (traced : Bool) (value : Value) : Run Unit :=
  if traced then modify fun machine => { machine with operands := value :: machine.operands }
  else pure ()

/-- Reports an event when the run is traced. -/
def report (traced : Bool) (event : TraceEvent) : Run Unit :=
  if traced then modify fun machine => { machine with log := event :: machine.log }
  else pure ()

/-- Reports the argument of the function that shows values. -/
def showArgument (traced : Bool) (function : Builtin) (values : List Value) : Run Unit :=
  match function, values with
  | .debug, value :: _ => report traced (.shown value)
  | _, _ => pure ()

/-- Runs one node. In a traced run its operands are its own, its outcome is reported, and a failure
counts as null. -/
def observe (traced : Bool) (node : Expr) (body : Run Value) : Run Value := fun machine =>
  if traced then
    match body { machine with operands := [] } with
    | (.ok value, after) =>
      (.ok value, ⟨after.names, .result node after.operands.reverse value :: after.log,
        machine.operands⟩)
    | (.error (.failed error), after) =>
      (.ok .null, ⟨after.names, .failure node after.operands.reverse error :: after.log,
        machine.operands⟩)
    | (.error .outOfFuel, after) => (.error .outOfFuel, after)
  else body machine

/-- Runs the body of a call on a frame of its own, which is taken off however the body ends. -/
def inFrame {α : Type} (frame : Frame) (body : Run α) : Run α := fun machine =>
  match body { machine with names := .frame frame machine.names } with
  | (result, after) => (result, { after with names := after.names.outer })

end Run

/-- Binds parameters to values as far as there are both. A blank parameter passes over its value. -/
def Frame.bind (frame : Frame) (params : List String) (values : List Value) : Frame :=
  (params.zip values).foldl
    (fun frame (param, value) =>
      if (Text.trimChars param.toList).isEmpty then frame else frame.set param value)
    frame

/-- The element that an index value addresses; none for null and for negative numbers. -/
def indexOf : Value → Except EvalError (Option Nat)
  | .null => .ok none
  | .number n => addressed (.number n)
  | .text s => addressed (.text s)
  | other => .error (.typeError ("array index must be numeric, got " ++ other.kindName))
where
  addressed (value : Value) : Except EvalError (Option Nat) :=
    match value.int64? with
    | some i => .ok (if 0 ≤ i then some i.toNat else none)
    | none => .error (.typeError ("array index '" ++ value.display ++ "' is not numeric"))

/-- The value of a variable as a whole. -/
def Namespace.read (names : Namespace) (isLocal : Bool) (name : String) : Value :=
  if isLocal then names.getLocal name else names.get name

/-- The value of an element of a variable. -/
def Namespace.readElement (names : Namespace) (isLocal : Bool) (name : String) (index : Nat) :
    Value :=
  if isLocal then (names.getLocal name).element index else names.getElement name index

/-- Writes an element of a variable. -/
def Namespace.writeElement (names : Namespace) (isLocal : Bool) (name : String) (index : Nat)
    (value : Value) : Namespace :=
  if isLocal then names.set name ((names.getLocal name).withElement index value)
  else names.setElement name index value

/-- The value of a variable, or of the element that an index addresses. -/
def Namespace.readAt (names : Namespace) (isLocal : Bool) (name : String) :
    Option (Option Nat) → Value
  | none => names.read isLocal name
  | some none => .null
  | some (some i) => names.readElement isLocal name i

/-- Writes a variable, or the element that an index addresses; none without an element. -/
def Namespace.writeAt? (names : Namespace) (isLocal : Bool) (name : String) (value : Value) :
    Option (Option Nat) → Option Namespace
  | none => some (names.set name value)
  | some none => none
  | some (some i) => some (names.writeElement isLocal name i value)

namespace Run

/-- Reads a variable or an element. -/
def read (caseSensitive : Bool) (target : VarRef) (index : Option (Option Nat)) : Run Value :=
  fun machine =>
    let name := machine.names.resolveName caseSensitive target.name
    (.ok (machine.names.readAt target.isLocal name index), machine)

/-- Writes a variable or an element. The result is what is there afterwards. -/
def write (caseSensitive : Bool) (target : VarRef) (index : Option (Option Nat)) (value : Value) :
    Run Value := fun machine =>
  let name := machine.names.resolveName caseSensitive target.name
  match machine.names.writeAt? target.isLocal name value index with
  | some names => (.ok (names.readAt target.isLocal name index), { machine with names := names })
  | none =>
    fail (.typeError ("cannot write " ++ target.display ++ " with a null or negative index"))
      machine

/-- Runs the body of a host function. -/
def native (settings : Settings) (body : NativeBody) : Run Value := fun machine =>
  match body machine.names settings with
  | (result, writes) =>
    (result.mapError .failed, { machine with names := machine.names.applyAll writes })

end Run

namespace Machine

variable {σ : Type}

mutual

/-- Runs a block: its functions first become known, then its statements run. -/
def runBlock (context : Context σ) : Nat → σ → Block → Run Value
  | 0, _, _ => throw .outOfFuel
  | fuel + 1, scope, block =>
    runStatements context fuel (context.lookup.enter scope block.functions) .null block.statements

/-- Runs statements in turn. The result is that of the last one, or the given value when there is
none. -/
def runStatements (context : Context σ) : Nat → σ → Value → List Statement → Run Value
  | 0, _, _, _ => throw .outOfFuel
  | _ + 1, _, last, [] => pure last
  | fuel + 1, scope, _, statement :: rest => do
    let value ← runStatement context fuel scope statement
    runStatements context fuel scope value rest

def runStatement (context : Context σ) : Nat → σ → Statement → Run Value
  | 0, _, _ => throw .outOfFuel
  | fuel + 1, scope, .expression expr => evalExpr context fuel scope expr
  | fuel + 1, scope, .branch condition yes no => do
    let test ← evalExpr context fuel scope condition
    if test.isTrue then runStatements context fuel scope .null yes
    else
      match no with
      | some no => runStatements context fuel scope .null no
      | none => pure .null
  | fuel + 1, scope, .loop condition body => runLoop context fuel scope condition body .null

/-- Turns a loop while its condition holds. The result is that of the last turn. -/
def runLoop (context : Context σ) : Nat → σ → Expr → List Statement → Value → Run Value
  | 0, _, _, _, _ => throw .outOfFuel
  | fuel + 1, scope, condition, body, last => do
    let test ← evalExpr context fuel scope condition
    if test.isTrue then
      let value ← runStatements context fuel scope .null body
      runLoop context fuel scope condition body value
    else pure last

/-- Evaluates an expression, and reports it when the run is traced. -/
def evalExpr (context : Context σ) : Nat → σ → Expr → Run Value
  | 0, _, _ => throw .outOfFuel
  | fuel + 1, scope, expr =>
    Run.observe context.traced expr (evalNode context fuel scope expr)

def evalNode (context : Context σ) : Nat → σ → Expr → Run Value
  | 0, _, _ => throw .outOfFuel
  | _ + 1, _, .literal value => pure value
  | fuel + 1, scope, .variable target => do
    let index ← evalIndex context fuel scope target.index
    Run.read context.settings.caseSensitive target index
  | fuel + 1, scope, .assign target expr => do
    let value ← evalExpr context fuel scope expr
    Run.note context.traced value
    let index ← evalIndex context fuel scope target.index
    Run.write context.settings.caseSensitive target index value
  | fuel + 1, scope, .binary op left right => do
    let first ← evalExpr context fuel scope left
    Run.note context.traced first
    match op.decided? first with
    | some value => pure value
    | none =>
      let second ← evalExpr context fuel scope right
      Run.note context.traced second
      Run.ofExcept (op.combine context.settings first second)
  | fuel + 1, scope, .not operand => do
    let value ← evalExpr context fuel scope operand
    Run.note context.traced value
    pure (if value.isNull then .null else .boolean (!value.isTrue))
  | fuel + 1, scope, .builtin function args =>
    if function.arity.accepts args.length then do
      let values ← evalArguments context fuel scope args
      Run.showArgument context.traced function values
      Run.ofExcept (function.apply context.settings values)
    else Run.fail (.argumentCount function.name function.arity.describe args.length)
  | fuel + 1, scope, .call name args =>
    match context.lookup.resolve? context.settings.caseSensitive name scope with
    | none => Run.fail (.unresolvedFunction name)
    | some found => do
      let values ← evalArguments context fuel scope args
      callFunction context fuel found values
  | fuel + 1, scope, .substitute primary fallback => do
    let value ← evalExpr context fuel scope primary
    Run.note context.traced value
    if value.isNull then evalExpr context fuel scope fallback else pure value

/-- Evaluates arguments from left to right. -/
def evalArguments (context : Context σ) : Nat → σ → List Expr → Run (List Value)
  | 0, _, _ => throw .outOfFuel
  | _ + 1, _, [] => pure []
  | fuel + 1, scope, arg :: rest => do
    let value ← evalExpr context fuel scope arg
    Run.note context.traced value
    let others ← evalArguments context fuel scope rest
    pure (value :: others)

/-- Evaluates an index where there is one. -/
def evalIndex (context : Context σ) : Nat → σ → Option Expr → Run (Option (Option Nat))
  | 0, _, _ => throw .outOfFuel
  | _ + 1, _, none => pure none
  | fuel + 1, scope, some index => do
    let value ← evalExpr context fuel scope index
    let address ← Run.ofExcept (indexOf value)
    pure (some address)

/-- Calls a function. A script function has a variable with its own name, which holds the result
when the body is done. -/
def callFunction (context : Context σ) : Nat → Resolved σ → List Value → Run Value
  | 0, _, _ => throw .outOfFuel
  | fuel + 1, .script function home, values =>
    let frame := ((Frame.empty context.settings.caseSensitive).set function.name .null).bind
      function.params values
    Run.inFrame frame do
      let _ ← runBlock context fuel home function.body
      Run.ownValue function.name
  | _ + 1, .native function, values =>
    let frame := (Frame.empty context.settings.caseSensitive).bind function.signature.params values
    Run.inFrame frame (Run.native context.settings function.body)

end

end Machine

/-- How a run ended: its result, the namespace it left, and its log with the oldest event first. -/
structure Outcome where
  result : Except Stop Value
  names : Namespace
  log : List TraceEvent

/-- Runs something on a namespace. -/
def Run.outcome (body : Run Value) (names : Namespace) : Outcome :=
  match body ⟨names, [], []⟩ with
  | (result, after) => ⟨result, after.names, after.log.reverse⟩

/-- More fuel than any run that ends in practice takes. -/
def defaultFuel : Nat := 1000000000000000

namespace Program

/-- What running a script takes: its source is reported, then its body runs. -/
def steps {σ : Type} (program : Program) (fuel : Nat) (context : Context σ) (scope : σ) :
    Run Value := do
  Run.report context.traced (.source program.source)
  Machine.runBlock context fuel scope program.body

/-- Runs a script with a bound on its depth and its loops. -/
def runWith {σ : Type} (fuel : Nat) (context : Context σ) (program : Program) (scope : σ)
    (names : Namespace) : Outcome :=
  Run.outcome (program.steps fuel context scope) names

/-- Runs a script. -/
def run (program : Program) (settings : Settings) (scope : Scope) (names : Namespace) : Outcome :=
  program.runWith defaultFuel ⟨settings, false, Scope.lookup⟩ scope names

/-- Runs a script and reports on every node. -/
def trace (program : Program) (settings : Settings) (scope : Scope) (names : Namespace) :
    Outcome :=
  program.runWith defaultFuel ⟨settings, true, Scope.lookup⟩ scope names

end Program

/-- Evaluates a single expression. -/
def Expr.eval (expr : Expr) (settings : Settings) (scope : Scope) (names : Namespace) : Outcome :=
  Run.outcome (Machine.evalExpr ⟨settings, false, Scope.lookup⟩ defaultFuel scope expr) names

end RuleScript
