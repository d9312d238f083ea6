import RuleScript.Run.Machine
import RuleScript.Script.References

/-!
Two runs of one script side by side. The runs may differ in what they report, in how they find
functions and in how much fuel they have. A relation between runs that every step of the machine
keeps (`Comparison.Kept`) holds between the two runs as a whole (`Comparison.Kept.holds`), as
long as both find the same functions wherever the script calls one.
-/
namespace RuleScript

variable {σ τ : Type}

/-- Two ways to run scripts, and how they are compared. -/
structure Comparison (σ τ : Type) where
  settings : Settings
  first : Bool × Lookup σ
  second : Bool × Lookup τ
  /-- How much more fuel the second run has. -/
  slack : Nat
  /-- The places from which the functions of a block are found alike. -/
  Alike : σ → τ → Block → Prop
  /-- The relation between a part of the first run and the same part of the second. -/
  Related : {α : Type} → Run α → Run α → Prop

/-- The same function found from two places, with homes that are alike for its body. -/
inductive Resolved.Matches (Alike : σ → τ → Block → Prop) :
    Option (Resolved σ) → Option (Resolved τ) → Prop
  | none : Matches Alike none none
  | script {function : FunctionDef} {home : σ} {home' : τ}
      (alike : Alike home home' function.body) :
      Matches Alike (some (.script function home)) (some (.script function home'))
  | native {function : NativeFunction} :
      Matches Alike (some (.native function)) (some (.native function))

/-- A lookup finds what it finds. -/
theorem Resolved.matches_self (found : Option (Resolved σ)) :
    Resolved.Matches (fun home home' _ => home = home') found found := by
  cases found with
  | none => exact .none
  | some found =>
    cases found with
    | script function home => exact .script rfl
    | native function => exact .native

namespace Comparison

/-- The context of the first run. -/
def left (both : Comparison σ τ) : Context σ :=
  ⟨both.settings, both.first.1, both.first.2⟩

/-- The context of the second run. -/
def right (both : Comparison σ τ) : Context τ :=
  ⟨both.settings, both.second.1, both.second.2⟩

/-- Each function that is called among the mentions is found alike from both places. -/
def Finds (both : Comparison σ τ) (place : σ) (place' : τ) (mentions : List Mention) : Prop :=
  ∀ name, .call name ∈ mentions →
    Resolved.Matches both.Alike
      (both.first.2.resolve? both.settings.caseSensitive name place)
      (both.second.2.resolve? both.settings.caseSensitive name place')

theorem Finds.mono {both : Comparison σ τ} {place : σ} {place' : τ} {mentions others : List Mention}
    (finds : both.Finds place place' mentions) (fewer : ∀ mention ∈ others, mention ∈ mentions) :
    both.Finds place place' others :=
  fun name called => finds name (fewer _ called)

theorem Finds.ofLeft {both : Comparison σ τ} {place : σ} {place' : τ}
    {mentions others : List Mention} (finds : both.Finds place place' (mentions ++ others)) :
    both.Finds place place' mentions :=
  finds.mono fun _ => List.mem_append_left _

theorem Finds.ofRight {both : Comparison σ τ} {place : σ} {place' : τ}
    {mentions others : List Mention} (finds : both.Finds place place' (mentions ++ others)) :
    both.Finds place place' others :=
  finds.mono fun _ => List.mem_append_right _

theorem Finds.ofIndex {both : Comparison σ τ} {place : σ} {place' : τ} {target : VarRef}
    (finds : both.Finds place place' target.mentions) :
    both.Finds place place' (mentionsOfIndex target.index) := by
  obtain ⟨name, index, isLocal⟩ := target
  exact finds.mono fun _ => List.mem_cons_of_mem _

/-- A script run twice with functions found the same way. -/
def twice (settings : Settings) (lookup : Lookup σ) (traced traced' : Bool) (slack : Nat)
    (Related : {α : Type} → Run α → Run α → Prop) : Comparison σ σ where
  settings := settings
  first := (traced, lookup)
  second := (traced', lookup)
  slack := slack
  Alike place place' _ := place = place'
  Related := Related

theorem twice_finds {settings : Settings} {lookup : Lookup σ} {traced traced' : Bool} {slack : Nat}
    {Related : {α : Type} → Run α → Run α → Prop} {place : σ} {mentions : List Mention} :
    (twice settings lookup traced traced' slack Related).Finds place place mentions :=
  fun _ _ => Resolved.matches_self _

/-- The relation is kept by all that the machine puts runs together from, and places that are alike
for a block find the same functions inside it. -/
structure Kept (both : Comparison σ τ) : Prop where
  value {α : Type} (value : α) : both.Related (pure value) (pure value)
  error {α : Type} (error : EvalError) : both.Related (Run.fail error : Run α) (Run.fail error)
  bind {α β : Type} {body body' : Run α} {next next' : α → Run β}
    (bodies : both.Related body body') (nexts : ∀ value, both.Related (next value) (next' value)) :
    both.Related (body >>= next) (body' >>= next')
  exhausted {α : Type} (other : Run α) (same : both.slack = 0 → other = throw .outOfFuel) :
    both.Related (throw .outOfFuel) other
  read (target : VarRef) (index : Option (Option Nat)) :
    both.Related (Run.read both.settings.caseSensitive target index)
      (Run.read both.settings.caseSensitive target index)
  write (target : VarRef) (index : Option (Option Nat)) (value : Value) :
    both.Related (Run.write both.settings.caseSensitive target index value)
      (Run.write both.settings.caseSensitive target index value)
  ownValue (name : String) : both.Related (Run.ownValue name) (Run.ownValue name)
  native (body : NativeBody) :
    both.Related (Run.native both.settings body) (Run.native both.settings body)
  note (value : Value) :
    both.Related (Run.note both.first.1 value) (Run.note both.second.1 value)
  reportSource (text : String) :
    both.Related (Run.report both.first.1 (.source text)) (Run.report both.second.1 (.source text))
  reportShown (value : Value) :
    both.Related (Run.report both.first.1 (.shown value)) (Run.report both.second.1 (.shown value))
  observe (node : Expr) {body body' : Run Value} (bodies : both.Related body body') :
    both.Related (Run.observe both.first.1 node body) (Run.observe both.second.1 node body')
  inFrame (frame : Frame) {body body' : Run Value} (bodies : both.Related body body') :
    both.Related (Run.inFrame frame body) (Run.inFrame frame body')
  enter {place : σ} {place' : τ} {block : Block} (alike : both.Alike place place' block) :
    both.Finds (both.first.2.enter place block.functions)
      (both.second.2.enter place' block.functions) (mentionsOfStatements block.statements)

/-- Each function of the machine gives related runs at some fuel. -/
structure Holds (both : Comparison σ τ) (fuel : Nat) : Prop where
  block {place : σ} {place' : τ} {block : Block} (alike : both.Alike place place' block) :
    both.Related (Machine.runBlock both.left fuel place block)
      (Machine.runBlock both.right (fuel + both.slack) place' block)
  statements {place : σ} {place' : τ} {statements : List Statement} (last : Value)
    (finds : both.Finds place place' (mentionsOfStatements statements)) :
    both.Related (Machine.runStatements both.left fuel place last statements)
      (Machine.runStatements both.right (fuel + both.slack) place' last statements)
  statement {place : σ} {place' : τ} {statement : Statement}
    (finds : both.Finds place place' statement.mentions) :
    both.Related (Machine.runStatement both.left fuel place statement)
      (Machine.runStatement both.right (fuel + both.slack) place' statement)
  loop {place : σ} {place' : τ} {condition : Expr} {body : List Statement} (last : Value)
    (finds : both.Finds place place' (condition.mentions ++ mentionsOfStatements body)) :
    both.Related (Machine.runLoop both.left fuel place condition body last)
      (Machine.runLoop both.right (fuel + both.slack) place' condition body last)
  expr {place : σ} {place' : τ} {expr : Expr} (finds : both.Finds place place' expr.mentions) :
    both.Related (Machine.evalExpr both.left fuel place expr)
      (Machine.evalExpr both.right (fuel + both.slack) place' expr)
  node {place : σ} {place' : τ} {expr : Expr} (finds : both.Finds place place' expr.mentions) :
    both.Related (Machine.evalNode both.left fuel place expr)
      (Machine.evalNode both.right (fuel + both.slack) place' expr)
  arguments {place : σ} {place' : τ} {args : List Expr}
    (finds : both.Finds place place' (mentionsOfAll args)) :
    both.Related (Machine.evalArguments both.left fuel place args)
      (Machine.evalArguments both.right (fuel + both.slack) place' args)
  index {place : σ} {place' : τ} {index : Option Expr}
    (finds : both.Finds place place' (mentionsOfIndex index)) :
    both.Related (Machine.evalIndex both.left fuel place index)
      (Machine.evalIndex both.right (fuel + both.slack) place' index)
  call {found : Resolved σ} {found' : Resolved τ} (values : List Value)
    (matched : Resolved.Matches both.Alike (some found) (some found')) :
    both.Related (Machine.callFunction both.left fuel found values)
      (Machine.callFunction both.right (fuel + both.slack) found' values)

namespace Kept

variable {both : Comparison σ τ}

theorem ofExcept {α : Type} (kept : both.Kept) (result : Except EvalError α) :
    both.Related (Run.ofExcept result) (Run.ofExcept result) := by
  cases result with
  | ok value => exact kept.value value
  | error error => exact kept.error error

theorem showArgument (kept : both.Kept) (function : Builtin) (values : List Value) :
    both.Related (Run.showArgument both.first.1 function values)
      (Run.showArgument both.second.1 function values) := by
  unfold Run.showArgument
  split
  · exact kept.reportShown _
  · exact kept.value _

/-- What goes on with the function that was found, or fails where there is none. -/
theorem resolved {α : Type} (kept : both.Kept) {found : Option (Resolved σ)}
    {found' : Option (Resolved τ)} {error : EvalError} {next : Resolved σ → Run α}
    {next' : Resolved τ → Run α}
    (nexts : ∀ function function', Resolved.Matches both.Alike (some function) (some function') →
      both.Related (next function) (next' function')) :
    Resolved.Matches both.Alike found found' →
      both.Related
        (match found with | none => Run.fail error | some function => next function)
        (match found' with | none => Run.fail error | some function => next' function) := by
  intro matched
  cases matched with
  | none => exact kept.error error
  | script alike => exact nexts _ _ (.script alike)
  | native => exact nexts _ _ .native

theorem holds_zero (kept : both.Kept) : both.Holds 0 where
  block _ := kept.exhausted _ fun none => by rw [none]; rfl
  statements _ _ := kept.exhausted _ fun none => by rw [none]; rfl
  statement _ := kept.exhausted _ fun none => by rw [none]; rfl
  loop _ _ := kept.exhausted _ fun none => by rw [none]; rfl
  expr _ := kept.exhausted _ fun none => by rw [none]; rfl
  node _ := kept.exhausted _ fun none => by rw [none]; rfl
  arguments _ := kept.exhausted _ fun none => by rw [none]; rfl
  index _ := kept.exhausted _ fun none => by rw [none]; rfl
  call _ _ := kept.exhausted _ fun none => by rw [none]; rfl

section Step

variable {fuel : Nat} {place : σ} {place' : τ}

theorem runBlock (kept : both.Kept) (holds : both.Holds fuel) {block : Block}
    (alike : both.Alike place place' block) :
    both.Related (Machine.runBlock both.left (fuel + 1) place block)
      (Machine.runBlock both.right (fuel + 1 + both.slack) place' block) := by
  rw [Nat.add_right_comm]
  unfold Machine.runBlock
  exact holds.statements _ (kept.enter alike)

theorem runStatements (kept : both.Kept) (holds : both.Holds fuel) {statements : List Statement}
    (last : Value) (finds : both.Finds place place' (mentionsOfStatements statements)) :
    both.Related (Machine.runStatements both.left (fuel + 1) place last statements)
      (Machine.runStatements both.right (fuel + 1 + both.slack) place' last statements) := by
  rw [Nat.add_right_comm]
  cases statements with
  | nil => exact kept.value last
  | cons statement rest =>
    unfold mentionsOfStatements at finds
    unfold Machine.runStatements
    exact kept.bind (holds.statement finds.ofLeft) fun value =>
      holds.statements value finds.ofRight

theorem runStatement (kept : both.Kept) (holds : both.Holds fuel) {statement : Statement}
    (finds : both.Finds place place' statement.mentions) :
    both.Related (Machine.runStatement both.left (fuel + 1) place statement)
      (Machine.runStatement both.right (fuel + 1 + both.slack) place' statement) := by
  rw [Nat.add_right_comm]
  cases statement with
  | expression expr =>
    unfold Statement.mentions at finds
    exact holds.expr finds
  | branch condition yes no =>
    unfold Statement.mentions at finds
    unfold Machine.runStatement
    refine kept.bind (holds.expr finds.ofLeft.ofLeft) fun test => ?_
    split
    · exact holds.statements _ finds.ofLeft.ofRight
    · cases no with
      | none => exact kept.value _
      | some no => exact holds.statements _ finds.ofRight
  | loop condition body =>
    unfold Statement.mentions at finds
    exact holds.loop _ finds

theorem runLoop (kept : both.Kept) (holds : both.Holds fuel) {condition : Expr}
    {body : List Statement} (last : Value)
    (finds : both.Finds place place' (condition.mentions ++ mentionsOfStatements body)) :
    both.Related (Machine.runLoop both.left (fuel + 1) place condition body last)
      (Machine.runLoop both.right (fuel + 1 + both.slack) place' condition body last) := by
  rw [Nat.add_right_comm]
  unfold Machine.runLoop
  refine kept.bind (holds.expr finds.ofLeft) fun test => ?_
  split
  · exact kept.bind (holds.statements _ finds.ofRight) fun value => holds.loop value finds
  · exact kept.value last

theorem evalExpr (kept : both.Kept) (holds : both.Holds fuel) {expr : Expr}
    (finds : both.Finds place place' expr.mentions) :
    both.Related (Machine.evalExpr both.left (fuel + 1) place expr)
      (Machine.evalExpr both.right (fuel + 1 + both.slack) place' expr) := by
  rw [Nat.add_right_comm]
  unfold Machine.evalExpr
  exact kept.observe expr (holds.node finds)

theorem evalNode (kept : both.Kept) (holds : both.Holds fuel) {expr : Expr}
    (finds : both.Finds place place' expr.mentions) :
    both.Related (Machine.evalNode both.left (fuel + 1) place expr)
      (Machine.evalNode both.right (fuel + 1 + both.slack) place' expr) := by
  rw [Nat.add_right_comm]
  cases expr with
  | literal value => exact kept.value value
  | «variable» target =>
    unfold Expr.mentions at finds
    unfold Machine.evalNode
    exact kept.bind (holds.index finds.ofIndex) fun index => kept.read target index
  | assign target value =>
    unfold Expr.mentions at finds
    unfold Machine.evalNode
    exact kept.bind (holds.expr finds.ofRight) fun value => kept.bind (kept.note value) fun _ =>
      kept.bind (holds.index finds.ofLeft.ofIndex) fun index => kept.write target index value
  | binary op left right =>
    unfold Expr.mentions at finds
    unfold Machine.evalNode
    refine kept.bind (holds.expr finds.ofLeft) fun first => kept.bind (kept.note first) fun _ => ?_
    cases op.decided? first with
    | some value => exact kept.value value
    | none =>
      exact kept.bind (holds.expr finds.ofRight) fun second =>
        kept.bind (kept.note second) fun _ => kept.ofExcept _
  | not operand =>
    unfold Expr.mentions at finds
    unfold Machine.evalNode
    exact kept.bind (holds.expr finds) fun value => kept.bind (kept.note value) fun _ =>
      kept.value _
  | builtin function args =>
    unfold Expr.mentions at finds
    unfold Machine.evalNode
    split
    · exact kept.bind (holds.arguments finds) fun values =>
        kept.bind (kept.showArgument function values) fun _ => kept.ofExcept _
    · exact kept.error _
  | call name args =>
    unfold Expr.mentions at finds
    unfold Machine.evalNode
    have inArguments : both.Finds place place' (mentionsOfAll args) :=
      finds.mono fun _ => List.mem_cons_of_mem _
    exact kept.resolved (fun _ _ matched => kept.bind (holds.arguments inArguments) fun values =>
      holds.call values matched) (finds name List.mem_cons_self)
  | substitute primary fallback =>
    unfold Expr.mentions at finds
    unfold Machine.evalNode
    refine kept.bind (holds.expr finds.ofLeft) fun value => kept.bind (kept.note value) fun _ => ?_
    split
    · exact holds.expr finds.ofRight
    · exact kept.value value

theorem evalArguments (kept : both.Kept) (holds : both.Holds fuel) {args : List Expr}
    (finds : both.Finds place place' (mentionsOfAll args)) :
    both.Related (Machine.evalArguments both.left (fuel + 1) place args)
      (Machine.evalArguments both.right (fuel + 1 + both.slack) place' args) := by
  rw [Nat.add_right_comm]
  cases args with
  | nil => exact kept.value []
  | cons arg rest =>
    unfold mentionsOfAll at finds
    unfold Machine.evalArguments
    exact kept.bind (holds.expr finds.ofLeft) fun value => kept.bind (kept.note value) fun _ =>
      kept.bind (holds.arguments finds.ofRight) fun others => kept.value (value :: others)

theorem evalIndex (kept : both.Kept) (holds : both.Holds fuel) {index : Option Expr}
    (finds : both.Finds place place' (mentionsOfIndex index)) :
    both.Related (Machine.evalIndex both.left (fuel + 1) place index)
      (Machine.evalIndex both.right (fuel + 1 + both.slack) place' index) := by
  rw [Nat.add_right_comm]
  cases index with
  | none => exact kept.value none
  | some index =>
    unfold mentionsOfIndex at finds
    unfold Machine.evalIndex
    exact kept.bind (holds.expr finds) fun value => kept.bind (kept.ofExcept _) fun address =>
      kept.value (some address)

theorem callFunction (kept : both.Kept) (holds : both.Holds fuel) {found : Resolved σ}
    {found' : Resolved τ} (values : List Value)
    (matched : Resolved.Matches both.Alike (some found) (some found')) :
    both.Related (Machine.callFunction both.left (fuel + 1) found values)
      (Machine.callFunction both.right (fuel + 1 + both.slack) found' values) := by
  rw [Nat.add_right_comm]
  unfold Machine.callFunction
  cases matched with
  | script alike =>
    exact kept.inFrame _ (kept.bind (holds.block alike) fun _ => kept.ownValue _)
  | native => exact kept.inFrame _ (kept.native _)

end Step

/-- A relation that is kept holds between the two runs of each function of the machine. -/
theorem holds (kept : both.Kept) (fuel : Nat) : both.Holds fuel := by
  induction fuel with
  | zero => exact kept.holds_zero
  | succ fuel holds =>
    exact {
      block := kept.runBlock holds
      statements := kept.runStatements holds
      statement := kept.runStatement holds
      loop := kept.runLoop holds
      expr := kept.evalExpr holds
      node := kept.evalNode holds
      arguments := kept.evalArguments holds
      index := kept.evalIndex holds
      call := kept.callFunction holds }

/-- The whole of a script, run both ways. -/
theorem program (kept : both.Kept) (fuel : Nat) (program : Program) {place : σ} {place' : τ}
    (alike : both.Alike place place' program.body) :
    both.Related (program.steps fuel both.left place)
      (program.steps (fuel + both.slack) both.right place') := by
  unfold Program.steps
  exact kept.bind (kept.reportSource _) fun _ => (kept.holds fuel).block alike

end Kept
end Comparison
end RuleScript
