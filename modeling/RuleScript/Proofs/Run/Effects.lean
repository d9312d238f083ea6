import RuleScript.Proofs.Run.Names

/-!
What a run can do to the variables. A tree changes the namespace that it runs on only by writing
the targets of its own assignments (`Namespace.Changed`); a called function writes a frame of its
own, which is gone when it returns. So a run never reaches below the innermost level, and a tree
without assignments changes nothing.
-/
namespace RuleScript

mutual

/-- The variables that an expression assigns to, those in its indices and arguments included. -/
def Expr.targets : Expr → List VarRef
  | .literal _ => []
  | .variable target => target.targets
  | .assign target value => target :: (target.targets ++ value.targets)
  | .binary _ left right => left.targets ++ right.targets
  | .not operand => operand.targets
  | .builtin _ args => targetsOfAll args
  | .call _ args => targetsOfAll args
  | .substitute primary fallback => primary.targets ++ fallback.targets

def VarRef.targets : VarRef → List VarRef
  | ⟨_, index, _⟩ => targetsOfIndex index

def targetsOfIndex : Option Expr → List VarRef
  | none => []
  | some index => index.targets

def targetsOfAll : List Expr → List VarRef
  | [] => []
  | arg :: rest => arg.targets ++ targetsOfAll rest

end

mutual

/-- The variables that a statement assigns to. -/
def Statement.targets : Statement → List VarRef
  | .expression value => value.targets
  | .branch condition yes no => condition.targets ++ targetsOfStatements yes ++ targetsOfElse no
  | .loop condition body => condition.targets ++ targetsOfStatements body

def targetsOfElse : Option (List Statement) → List VarRef
  | none => []
  | some statements => targetsOfStatements statements

def targetsOfStatements : List Statement → List VarRef
  | [] => []
  | statement :: rest => statement.targets ++ targetsOfStatements rest

end

theorem targetsOfIndex_eq (target : VarRef) : targetsOfIndex target.index = target.targets := by
  obtain ⟨name, index, isLocal⟩ := target
  rfl

namespace Namespace

/-- All levels but the innermost, none where there is only one. -/
def parent? : Namespace → Option Namespace
  | .root _ => none
  | .frame _ parent => some parent

theorem parent?_set (names : Namespace) (name : String) (value : Value) :
    (names.set name value).parent? = names.parent? := by
  cases names with
  | root store => rfl
  | frame own parent => rfl

theorem parent?_setElement (names : Namespace) (name : String) (index : Nat) (value : Value) :
    (names.setElement name index value).parent? = names.parent? := by
  cases names with
  | root store => rfl
  | frame own parent => rfl

theorem parent?_applyAll (names : Namespace) (writes : List Write) :
    (names.applyAll writes).parent? = names.parent? := by
  unfold applyAll
  induction writes generalizing names with
  | nil => rfl
  | cons write rest others =>
    rw [List.foldl_cons, others]
    cases write with
    | whole name value => exact parent?_set names name value
    | element name index value => exact parent?_setElement names name index value

theorem parent?_writeAt? {names written : Namespace} {isLocal : Bool} {name : String}
    {value : Value} {index : Option (Option Nat)}
    (wrote : names.writeAt? isLocal name value index = some written) :
    written.parent? = names.parent? := by
  unfold writeAt? at wrote
  split at wrote
  · cases wrote
    exact parent?_set names name value
  · cases wrote
  · cases wrote
    unfold writeElement
    split
    · exact parent?_set names name _
    · exact parent?_setElement names name _ value

theorem outer_of_parent? {names parent : Namespace} (below : names.parent? = some parent) :
    names.outer = parent := by
  cases names with
  | root store => cases below
  | frame own found =>
    cases below
    rfl

/-- The second namespace comes from the first by writing variables among the targets. -/
inductive Changed (caseSensitive : Bool) (targets : List VarRef) :
    Namespace → Namespace → Prop
  | none {names : Namespace} : Changed caseSensitive targets names names
  | write {names after written : Namespace} {target : VarRef} {index : Option (Option Nat)}
      {value : Value} (before : Changed caseSensitive targets names after)
      (among : target ∈ targets)
      (wrote : after.writeAt? target.isLocal (after.resolveName caseSensitive target.name) value
        index = some written) :
      Changed caseSensitive targets names written

namespace Changed

variable {caseSensitive : Bool} {targets others : List VarRef} {names after last : Namespace}

theorem trans (first : Changed caseSensitive targets names after)
    (second : Changed caseSensitive targets after last) :
    Changed caseSensitive targets names last := by
  induction second with
  | none => exact first
  | write _ among wrote before => exact .write before among wrote

theorem mono (changed : Changed caseSensitive targets names after)
    (more : ∀ target ∈ targets, target ∈ others) : Changed caseSensitive others names after := by
  induction changed with
  | none => exact .none
  | write _ among wrote before => exact .write before (more _ among) wrote

/-- Writing stays on the innermost level. -/
theorem parent? (changed : Changed caseSensitive targets names after) :
    after.parent? = names.parent? := by
  induction changed with
  | none => rfl
  | write _ _ wrote before => exact (parent?_writeAt? wrote).trans before

theorem eq_of_nil (changed : Changed caseSensitive [] names after) : after = names := by
  cases changed with
  | none => rfl
  | write _ among _ => cases among

end Changed
end Namespace

/-- However it ends, the run changes the names only by writing variables among the targets. -/
def Run.Writes {α : Type} (caseSensitive : Bool) (targets : List VarRef) (body : Run α) : Prop :=
  ∀ machine, Namespace.Changed caseSensitive targets machine.names (body machine).2.names

namespace Run.Writes

variable {α β : Type} {caseSensitive : Bool} {targets others : List VarRef}

theorem nothing {body : Run α} (same : ∀ machine, (body machine).2.names = machine.names) :
    Run.Writes caseSensitive targets body := by
  intro machine
  rw [same machine]
  exact .none

theorem value (value : α) : Run.Writes caseSensitive targets (pure value) :=
  nothing fun _ => rfl

theorem exhausted : Run.Writes caseSensitive targets (throw .outOfFuel : Run α) :=
  nothing fun _ => rfl

theorem ofExcept (result : Except EvalError α) :
    Run.Writes caseSensitive targets (Run.ofExcept result) := by
  cases result with
  | ok value => exact .value value
  | error error => exact nothing fun _ => rfl

theorem note (traced : Bool) (value : Value) :
    Run.Writes caseSensitive targets (Run.note traced value) := by
  cases traced <;> exact nothing fun _ => rfl

theorem showArgument (traced : Bool) (function : Builtin) (values : List Value) :
    Run.Writes caseSensitive targets (Run.showArgument traced function values) := by
  unfold Run.showArgument
  split
  · cases traced <;> exact nothing fun _ => rfl
  · exact .value ()

theorem mono {body : Run α} (writes : Run.Writes caseSensitive targets body)
    (more : ∀ target ∈ targets, target ∈ others) : Run.Writes caseSensitive others body :=
  fun machine => (writes machine).mono more

theorem bind {body : Run α} {next : α → Run β} (first : Run.Writes caseSensitive targets body)
    (rest : ∀ value, Run.Writes caseSensitive targets (next value)) :
    Run.Writes caseSensitive targets (body >>= next) := by
  intro machine
  have changed := first machine
  rcases ran : body machine with ⟨stop | value, after⟩
  · rw [Run.bind_error ran]
    rwa [ran] at changed
  · rw [Run.bind_ok ran]
    rw [ran] at changed
    exact changed.trans (rest value after)

theorem write {target : VarRef} (among : target ∈ targets) (index : Option (Option Nat))
    (value : Value) :
    Run.Writes caseSensitive targets (Run.write caseSensitive target index value) := by
  intro machine
  unfold Run.write
  dsimp only
  split
  · next written wrote => exact .write .none among wrote
  · exact .none

theorem observe (traced : Bool) (node : Expr) {body : Run Value}
    (writes : Run.Writes caseSensitive targets body) :
    Run.Writes caseSensitive targets (Run.observe traced node body) := by
  intro machine
  unfold Run.observe
  cases traced with
  | false => exact writes machine
  | true =>
    have changed := writes { machine with operands := [] }
    simp only [if_true]
    rcases ran : body { machine with operands := [] } with ⟨(error | _) | value, after⟩ <;>
      rw [ran] at changed <;> exact changed

end Run.Writes

/-- A body that writes on its own frame leaves the names of the caller alone. -/
theorem Run.inFrame_names {α : Type} (frame : Frame) {body : Run α}
    (confined : ∀ machine, (body machine).2.names.parent? = machine.names.parent?)
    (machine : Machine) : (Run.inFrame frame body machine).2.names = machine.names :=
  Namespace.outer_of_parent? (confined { machine with names := .frame frame machine.names })

namespace Machine

variable {σ : Type} {context : Context σ}

/-- Each function of the machine writes, at some fuel, only what its tree assigns to; a call writes
nothing that its caller sees. -/
structure Confined (context : Context σ) (fuel : Nat) : Prop where
  block (place : σ) (block : Block) :
    (runBlock context fuel place block).Writes context.settings.caseSensitive
      (targetsOfStatements block.statements)
  statements (place : σ) (last : Value) (statements : List Statement) :
    (runStatements context fuel place last statements).Writes context.settings.caseSensitive
      (targetsOfStatements statements)
  statement (place : σ) (statement : Statement) :
    (runStatement context fuel place statement).Writes context.settings.caseSensitive
      statement.targets
  loop (place : σ) (condition : Expr) (body : List Statement) (last : Value) :
    (runLoop context fuel place condition body last).Writes context.settings.caseSensitive
      (condition.targets ++ targetsOfStatements body)
  expr (place : σ) (expr : Expr) :
    (evalExpr context fuel place expr).Writes context.settings.caseSensitive expr.targets
  node (place : σ) (expr : Expr) :
    (evalNode context fuel place expr).Writes context.settings.caseSensitive expr.targets
  arguments (place : σ) (args : List Expr) :
    (evalArguments context fuel place args).Writes context.settings.caseSensitive
      (targetsOfAll args)
  index (place : σ) (index : Option Expr) :
    (evalIndex context fuel place index).Writes context.settings.caseSensitive
      (targetsOfIndex index)
  call (found : Resolved σ) (values : List Value) (machine : Machine) :
    (callFunction context fuel found values machine).2.names = machine.names

theorem confined_zero : Confined context 0 where
  block _ _ := .exhausted
  statements _ _ _ := .exhausted
  statement _ _ := .exhausted
  loop _ _ _ _ := .exhausted
  expr _ _ := .exhausted
  node _ _ := .exhausted
  arguments _ _ := .exhausted
  index _ _ := .exhausted
  call _ _ _ := rfl

namespace Confined

variable {fuel : Nat}

theorem runBlock (confined : Confined context fuel) (place : σ) (block : Block) :
    (runBlock context (fuel + 1) place block).Writes context.settings.caseSensitive
      (targetsOfStatements block.statements) :=
  confined.statements _ _ _

theorem runStatements (confined : Confined context fuel) (place : σ) (last : Value)
    (statements : List Statement) :
    (runStatements context (fuel + 1) place last statements).Writes
      context.settings.caseSensitive (targetsOfStatements statements) := by
  cases statements with
  | nil => exact .value last
  | cons statement rest =>
    unfold Machine.runStatements targetsOfStatements
    exact .bind ((confined.statement place statement).mono fun _ => List.mem_append_left _)
      fun value => (confined.statements place value rest).mono fun _ => List.mem_append_right _

theorem runStatement (confined : Confined context fuel) (place : σ) (statement : Statement) :
    (runStatement context (fuel + 1) place statement).Writes context.settings.caseSensitive
      statement.targets := by
  cases statement with
  | expression expr =>
    unfold Statement.targets
    exact confined.expr place expr
  | branch condition yes no =>
    unfold Machine.runStatement Statement.targets
    refine .bind ((confined.expr place condition).mono fun _ among => ?_) fun test => ?_
    · exact List.mem_append_left _ (List.mem_append_left _ among)
    · split
      · refine (confined.statements place _ yes).mono fun _ among => ?_
        exact List.mem_append_left _ (List.mem_append_right _ among)
      · cases no with
        | none => exact .value _
        | some no => exact (confined.statements place _ no).mono fun _ => List.mem_append_right _
  | loop condition body =>
    unfold Statement.targets
    exact confined.loop place condition body _

theorem runLoop (confined : Confined context fuel) (place : σ) (condition : Expr)
    (body : List Statement) (last : Value) :
    (runLoop context (fuel + 1) place condition body last).Writes context.settings.caseSensitive
      (condition.targets ++ targetsOfStatements body) := by
  unfold Machine.runLoop
  refine .bind ((confined.expr place condition).mono fun _ => List.mem_append_left _)
    fun test => ?_
  split
  · exact .bind ((confined.statements place _ body).mono fun _ => List.mem_append_right _)
      fun value => confined.loop place condition body value
  · exact .value last

theorem evalExpr (confined : Confined context fuel) (place : σ) (expr : Expr) :
    (evalExpr context (fuel + 1) place expr).Writes context.settings.caseSensitive
      expr.targets :=
  .observe context.traced expr (confined.node place expr)

theorem evalNode (confined : Confined context fuel) (place : σ) (expr : Expr) :
    (evalNode context (fuel + 1) place expr).Writes context.settings.caseSensitive
      expr.targets := by
  cases expr with
  | literal value => exact .value value
  | «variable» target =>
    unfold Machine.evalNode Expr.targets
    rw [← targetsOfIndex_eq]
    exact .bind (confined.index place target.index) fun index => .nothing fun _ => rfl
  | assign target value =>
    unfold Machine.evalNode Expr.targets
    rw [← targetsOfIndex_eq]
    refine .bind ((confined.expr place value).mono fun _ among => ?_) fun value =>
      .bind (.note context.traced value) fun _ =>
      .bind ((confined.index place target.index).mono fun _ among => ?_) fun index =>
      .write List.mem_cons_self index value
    · exact List.mem_cons_of_mem _ (List.mem_append_right _ among)
    · exact List.mem_cons_of_mem _ (List.mem_append_left _ among)
  | binary op left right =>
    unfold Machine.evalNode Expr.targets
    refine .bind ((confined.expr place left).mono fun _ => List.mem_append_left _) fun first =>
      .bind (.note context.traced first) fun _ => ?_
    cases op.decided? first with
    | some value => exact .value value
    | none =>
      exact .bind ((confined.expr place right).mono fun _ => List.mem_append_right _)
        fun second => .bind (.note context.traced second) fun _ => .ofExcept _
  | not operand =>
    unfold Machine.evalNode Expr.targets
    exact .bind (confined.expr place operand) fun value =>
      .bind (.note context.traced value) fun _ => .value _
  | builtin function args =>
    unfold Machine.evalNode Expr.targets
    split
    · exact .bind (confined.arguments place args) fun values =>
        .bind (.showArgument context.traced function values) fun _ => .ofExcept _
    · exact .nothing fun _ => rfl
  | call name args =>
    unfold Machine.evalNode Expr.targets
    split
    · exact .nothing fun _ => rfl
    · next found _ =>
      exact .bind (confined.arguments place args) fun values =>
        .nothing (confined.call found values)
  | substitute primary fallback =>
    unfold Machine.evalNode Expr.targets
    refine .bind ((confined.expr place primary).mono fun _ => List.mem_append_left _)
      fun value => .bind (.note context.traced value) fun _ => ?_
    split
    · exact (confined.expr place fallback).mono fun _ => List.mem_append_right _
    · exact .value value

theorem evalArguments (confined : Confined context fuel) (place : σ) (args : List Expr) :
    (evalArguments context (fuel + 1) place args).Writes context.settings.caseSensitive
      (targetsOfAll args) := by
  cases args with
  | nil => exact .value []
  | cons arg rest =>
    unfold Machine.evalArguments targetsOfAll
    exact .bind ((confined.expr place arg).mono fun _ => List.mem_append_left _) fun value =>
      .bind (.note context.traced value) fun _ =>
      .bind ((confined.arguments place rest).mono fun _ => List.mem_append_right _)
        fun others => .value (value :: others)

theorem evalIndex (confined : Confined context fuel) (place : σ) (index : Option Expr) :
    (evalIndex context (fuel + 1) place index).Writes context.settings.caseSensitive
      (targetsOfIndex index) := by
  cases index with
  | none => exact .value none
  | some index =>
    unfold Machine.evalIndex targetsOfIndex
    exact .bind (confined.expr place index) fun value => .bind (.ofExcept _) fun address =>
      .value (some address)

/-- The body of a script function writes its frame, and so does a host function. -/
theorem callFunction (confined : Confined context fuel) (found : Resolved σ)
    (values : List Value) (machine : Machine) :
    (callFunction context (fuel + 1) found values machine).2.names = machine.names := by
  unfold Machine.callFunction
  cases found with
  | script function home =>
    refine Run.inFrame_names _ (fun inner => ?_) machine
    have writes : Run.Writes context.settings.caseSensitive
        (targetsOfStatements function.body.statements)
        (Machine.runBlock context fuel home function.body >>= fun _ =>
          Run.ownValue function.name) :=
      .bind (confined.block home function.body) fun _ => .nothing fun _ => rfl
    exact (writes inner).parent?
  | native function =>
    refine Run.inFrame_names _ (fun inner => ?_) machine
    exact Namespace.parent?_applyAll inner.names _

end Confined

theorem confined (context : Context σ) (fuel : Nat) : Confined context fuel := by
  induction fuel with
  | zero => exact confined_zero
  | succ fuel confined =>
    exact {
      block := confined.runBlock
      statements := confined.runStatements
      statement := confined.runStatement
      loop := confined.runLoop
      expr := confined.evalExpr
      node := confined.evalNode
      arguments := confined.evalArguments
      index := confined.evalIndex
      call := confined.callFunction }

/-- Names are found and written alike whatever operands were noted before. -/
theorem evalExpr_names (context : Context σ) (fuel : Nat) (place : σ) (expr : Expr)
    (machine : Machine) :
    (evalExpr context (fuel + 1) place expr machine).2.names =
      (evalNode context fuel place expr machine).2.names := by
  have agrees : (evalNode context fuel place expr).Agrees (evalNode context fuel place expr) :=
    ((Comparison.names_kept context).holds fuel).node Comparison.twice_finds
  unfold evalExpr Run.observe
  cases context.traced with
  | false => rfl
  | true =>
    rw [← (agrees machine { machine with operands := [] } rfl).2]
    simp only [if_true]
    split <;> simp_all

/-- A call that is resolved writes what its arguments write. -/
theorem evalNode_call_names {context : Context σ} {place : σ} {name : String}
    {found : Resolved σ}
    (resolved : context.lookup.resolve? context.settings.caseSensitive name place = some found)
    (fuel : Nat) (args : List Expr) (machine : Machine) :
    (evalNode context (fuel + 1) place (.call name args) machine).2.names =
      (evalArguments context fuel place args machine).2.names := by
  unfold evalNode
  simp only [resolved]
  rcases ran : evalArguments context fuel place args machine with ⟨stop | values, after⟩
  · rw [Run.bind_error ran]
  · rw [Run.bind_ok ran, (confined context fuel).call found values after]

theorem evalNode_unresolved_names {context : Context σ} {place : σ} {name : String}
    (unresolved : context.lookup.resolve? context.settings.caseSensitive name place = none)
    (fuel : Nat) (args : List Expr) (machine : Machine) :
    (evalNode context fuel place (.call name args) machine).2.names = machine.names := by
  cases fuel with
  | zero => rfl
  | succ fuel =>
    unfold evalNode
    simp only [unresolved]
    rfl

/-- Evaluation writes only the innermost level of the names, however it ends and whatever the
functions of the host write. A call that is resolved leaves the names as its arguments do, a call
that is not leaves them alone, and so does a tree without assignments. -/
theorem innermost_only (settings : Settings) (traced : Bool) (scope : Scope) (fuel : Nat)
    (machine : Machine) :
    let context : Context Scope := ⟨settings, traced, Scope.lookup⟩
    (∀ expr, (evalExpr context fuel scope expr machine).2.names.parent? =
      machine.names.parent?) ∧
    (∀ statement, (runStatement context fuel scope statement machine).2.names.parent? =
      machine.names.parent?) ∧
    (∀ last statements,
      (runStatements context fuel scope last statements machine).2.names.parent? =
        machine.names.parent?) ∧
    (∀ block, (runBlock context fuel scope block machine).2.names.parent? =
      machine.names.parent?) ∧
    (∀ name args found, scope.resolve? settings.caseSensitive name = some found →
      (evalExpr context (fuel + 2) scope (.call name args) machine).2.names =
        (evalArguments context fuel scope args machine).2.names) ∧
    (∀ name args, scope.resolve? settings.caseSensitive name = none →
      (evalExpr context (fuel + 1) scope (.call name args) machine).2.names = machine.names) ∧
    (∀ expr, expr.targets = [] →
      (evalExpr context fuel scope expr machine).2.names = machine.names) ∧
    (∀ last statements, targetsOfStatements statements = [] →
      (runStatements context fuel scope last statements machine).2.names = machine.names) := by
  intro context
  have confined := confined context fuel
  refine ⟨fun expr => (confined.expr scope expr machine).parent?,
    fun statement => (confined.statement scope statement machine).parent?,
    fun last statements => (confined.statements scope last statements machine).parent?,
    fun block => (confined.block scope block machine).parent?,
    fun name args found resolved => ?_, fun name args unresolved => ?_,
    fun expr none => ?_, fun last statements none => ?_⟩
  · rw [evalExpr_names, evalNode_call_names resolved]
  · rw [evalExpr_names, evalNode_unresolved_names unresolved]
  · have changed := confined.expr scope expr machine
    rw [none] at changed
    exact changed.eq_of_nil
  · have changed := confined.statements scope last statements machine
    rw [none] at changed
    exact changed.eq_of_nil

/-- A function that writes a variable of its caller's names: the caller keeps its own value, and
what the argument wrote is there. -/
theorem innermost_only_called_write :
    let writes (name : String) (value : Bool) : Expr :=
      .assign ⟨name, none, false⟩ (.literal (.boolean value))
    let scope := Scope.empty.enter [⟨"f", ["p"], ⟨[], [.expression (writes "x" true)]⟩⟩]
    let names : Namespace := .root (.standard ((Variables.empty false).set "x" (.boolean false)))
    let context : Context Scope := ⟨.standard 0, false, Scope.lookup⟩
    (scope.resolve? true "f").isSome = true ∧
      (evalExpr context 12 scope (.call "f" [writes "y" true]) ⟨names, [], []⟩).2.names =
        names.set "y" (.boolean true) := by
  intro writes scope names context
  have call := (innermost_only (.standard 0) false scope 10 ⟨names, [], []⟩).2.2.2.2.1
  exact ⟨rfl, (call "f" [writes "y" true] _ rfl).trans rfl⟩

end Machine
end RuleScript
