import RuleScript.Proofs.Run.Errors
import RuleScript.Proofs.Run.Simulation
import RuleScript.Proofs.Scope.Declarations

/-!
No run comes to a state that was thought impossible. Functions of the host apart, which may give any
error, all errors that a run ends with or reports are ordinary ones (`Run.IsProper`): the logical
operators are not applied to both operands, a built-in function has the arguments that it reads, and
the numbers that are computed on the way from times, months and indices stay within 64 bits.
-/
namespace RuleScript

theorem proper_indexOf (value : Value) : Proper (indexOf value) := by
  have addressed (value : Value) : Proper (indexOf.addressed value) := by
    unfold indexOf.addressed
    split
    · exact .ok _
    · exact .error rfl
  cases value with
  | null => exact .ok _
  | number n => exact addressed _
  | text s => exact addressed _
  | boolean b => exact .error rfl
  | array items => exact .error rfl

theorem fitsInt64_iff (n : Int) :
    fitsInt64 n = true ↔ -0x8000000000000000 ≤ n ∧ n < 0x8000000000000000 := by
  simp [fitsInt64]

theorem Value.int64?_fits {value : Value} {n : Int} (whole : value.int64? = some n) :
    fitsInt64 n = true := by
  obtain ⟨d, -, truncated⟩ := Option.bind_eq_some_iff.1 whole
  unfold Decimal.toInt64? at truncated
  dsimp only at truncated
  generalize (if d.negative = true then _ else _ : Int) = m at truncated
  split at truncated
  · next fits =>
    cases truncated
    exact fits
  · cases truncated

/-- An array that is grown up to an index has a length within 64 bits. -/
theorem indexOf_bound {value : Value} {index : Nat} (found : indexOf value = .ok (some index)) :
    index + 1 ≤ twoPow 63 := by
  have addressed {value : Value} (found : indexOf.addressed value = .ok (some index)) :
      index + 1 ≤ twoPow 63 := by
    unfold indexOf.addressed at found
    split at found
    · next n whole =>
      have fits := (fitsInt64_iff n).1 (Value.int64?_fits whole)
      have power : twoPow 63 = 0x8000000000000000 := rfl
      split at found
      · next positive =>
        injection found with same
        injection same with same
        omega
      · cases found
    · cases found
  cases value with
  | null => cases found
  | number n => exact addressed found
  | text s => exact addressed found
  | boolean b => cases found
  | array items => cases found

/-- The functions of the host on a level give ordinary errors only. -/
def Level.IsTrusted (settings : Settings) (level : Level) : Prop :=
  ∀ entry ∈ level.natives.entries, ∀ names, Proper (entry.2.body names settings).1

/-- The functions of the host give ordinary errors only. -/
def Scope.IsTrusted (settings : Settings) : Scope → Prop
  | .root level => level.IsTrusted settings
  | .child level outer => level.IsTrusted settings ∧ outer.IsTrusted settings

/-- What was found is a script function with a trusted home, or a trusted function of the host. -/
def Resolved.IsTrusted (settings : Settings) : Resolved Scope → Prop
  | .script _ home => home.IsTrusted settings
  | .native function => ∀ names, Proper (function.body names settings).1

namespace Scope

variable {settings : Settings}

theorem IsTrusted.level {scope : Scope} (trusted : scope.IsTrusted settings) :
    scope.level.IsTrusted settings := by
  cases scope with
  | root level => exact trusted
  | child level outer => exact trusted.1

/-- A block adds no function of the host. -/
theorem IsTrusted.enter {scope : Scope} (trusted : scope.IsTrusted settings)
    (functions : List FunctionDef) : (scope.enter functions).IsTrusted settings := by
  unfold Scope.enter
  split
  · exact trusted
  · refine ⟨fun entry among => ?_, trusted⟩
    rw [Level.natives_defineScripts] at among
    cases among

theorem IsTrusted.resolveHere? {scope : Scope} (trusted : scope.IsTrusted settings)
    {caseSensitive : Bool} {name : String} {found : Resolved Scope}
    (resolved : scope.resolveHere? caseSensitive name = some found) :
    found.IsTrusted settings := by
  unfold Scope.resolveHere? at resolved
  split at resolved
  · cases resolved
    exact trusted
  · obtain ⟨function, native, rfl⟩ := Option.map_eq_some_iff.1 resolved
    rw [Registry.find?_eq] at native
    obtain ⟨entry, first, rfl⟩ := Option.map_eq_some_iff.1 native
    exact trusted.level entry (List.mem_of_find?_eq_some first)

theorem IsTrusted.resolve? {scope : Scope} (trusted : scope.IsTrusted settings)
    {caseSensitive : Bool} {name : String} {found : Resolved Scope}
    (resolved : scope.resolve? caseSensitive name = some found) : found.IsTrusted settings := by
  induction scope with
  | root level => exact trusted.resolveHere? resolved
  | child level outer outward =>
    unfold Scope.resolve? at resolved
    split at resolved
    · next here =>
      cases resolved
      exact trusted.resolveHere? here
    · exact outward trusted.2 resolved

end Scope

/-- The errors that the log reports are ordinary. -/
def IsProperLog (log : List TraceEvent) : Prop :=
  ∀ node operands error, .failure node operands error ∈ log → error.isOrdinary = true

theorem IsProperLog.cons {log : List TraceEvent} (proper : IsProperLog log) {event : TraceEvent}
    (ordinary : ∀ node operands error, event = .failure node operands error →
      error.isOrdinary = true) : IsProperLog (event :: log) := by
  intro node operands error among
  rcases List.mem_cons.1 among with here | before
  · exact ordinary node operands error here.symm
  · exact proper node operands error before

/-- All errors that a run reports or ends with are ordinary. -/
def Run.IsProper {α : Type} (body : Run α) : Prop :=
  ∀ machine, IsProperLog machine.log → IsProperLog (body machine).2.log ∧
    ∀ error, (body machine).1 = .error (.failed error) → error.isOrdinary = true

namespace Run.IsProper

variable {α β : Type}

/-- A body that reports nothing and does not fail. -/
theorem quiet {body : Run α} (log : ∀ machine, (body machine).2.log = machine.log)
    (runs : ∀ machine error, (body machine).1 ≠ .error (.failed error)) : Run.IsProper body := by
  intro machine proper
  rw [log machine]
  exact ⟨proper, fun error failed => absurd failed (runs machine error)⟩

theorem value (value : α) : Run.IsProper (pure value) :=
  quiet (fun _ => rfl) fun _ _ failed => by cases failed

theorem exhausted : Run.IsProper (throw .outOfFuel : Run α) :=
  quiet (fun _ => rfl) fun _ _ failed => by cases failed

theorem fail {error : EvalError} (ordinary : error.isOrdinary = true) :
    Run.IsProper (Run.fail error : Run α) := by
  refine fun machine proper => ⟨proper, fun other failed => ?_⟩
  cases failed
  exact ordinary

theorem ofExcept {result : Except EvalError α} (proper : Proper result) :
    Run.IsProper (Run.ofExcept result) := by
  cases result with
  | ok result => exact .value result
  | error error => exact .fail (proper error rfl)

theorem note (traced : Bool) (value : Value) : Run.IsProper (Run.note traced value) := by
  cases traced <;> exact quiet (fun _ => rfl) fun _ _ failed => by cases failed

theorem report (traced : Bool) {event : TraceEvent}
    (ordinary : ∀ node operands error, event = .failure node operands error →
      error.isOrdinary = true) : Run.IsProper (Run.report traced event) := by
  cases traced with
  | false => exact .value ()
  | true => exact fun machine proper => ⟨proper.cons ordinary, fun error failed => by cases failed⟩

theorem showArgument (traced : Bool) (function : Builtin) (values : List Value) :
    Run.IsProper (Run.showArgument traced function values) := by
  unfold Run.showArgument
  split
  · exact .report traced fun _ _ _ shown => by cases shown
  · exact .value ()

theorem bind {body : Run α} {next : α → Run β} (first : Run.IsProper body)
    (rest : ∀ value, (∃ machine, (body machine).1 = .ok value) → Run.IsProper (next value)) :
    Run.IsProper (body >>= next) := by
  intro machine proper
  have began := first machine proper
  rcases ran : body machine with ⟨stop | value, after⟩
  · rw [Run.bind_error ran]
    rw [ran] at began
    refine ⟨began.1, fun error failed => began.2 error ?_⟩
    cases failed
    rfl
  · rw [Run.bind_ok ran]
    rw [ran] at began
    exact rest value ⟨machine, by rw [ran]⟩ after began.1

theorem observe (traced : Bool) (node : Expr) {body : Run Value} (proper : Run.IsProper body) :
    Run.IsProper (Run.observe traced node body) := by
  intro machine log
  unfold Run.observe
  cases traced with
  | false => exact proper machine log
  | true =>
    have inner := proper { machine with operands := [] } log
    simp only [if_true]
    rcases ran : body { machine with operands := [] } with ⟨(error | _) | value, after⟩ <;>
      rw [ran] at inner
    · refine ⟨inner.1.cons fun _ _ other same => ?_, fun _ failed => ?_⟩
      · cases same
        exact inner.2 error rfl
      · cases failed
    · exact inner
    · refine ⟨inner.1.cons fun _ _ _ same => ?_, fun _ failed => ?_⟩
      · cases same
      · cases failed

theorem inFrame (frame : Frame) {body : Run α} (proper : Run.IsProper body) :
    Run.IsProper (Run.inFrame frame body) :=
  fun machine log => proper { machine with names := .frame frame machine.names } log

theorem read (caseSensitive : Bool) (target : VarRef) (index : Option (Option Nat)) :
    Run.IsProper (Run.read caseSensitive target index) :=
  quiet (fun _ => rfl) fun _ _ failed => by cases failed

theorem write (caseSensitive : Bool) (target : VarRef) (index : Option (Option Nat))
    (value : Value) : Run.IsProper (Run.write caseSensitive target index value) := by
  intro machine log
  unfold Run.write
  dsimp only
  split
  · exact ⟨log, fun _ failed => by cases failed⟩
  · exact Run.IsProper.fail rfl machine log

theorem native {settings : Settings} {body : NativeBody}
    (proper : ∀ names, Proper (body names settings).1) :
    Run.IsProper (Run.native settings body) := by
  intro machine log
  refine ⟨log, fun error failed => proper machine.names error ?_⟩
  unfold Run.native at failed
  dsimp only at failed
  cases result : (body machine.names settings).1 with
  | ok value =>
    rw [result] at failed
    cases failed
  | error other =>
    rw [result] at failed
    cases failed
    rfl

end Run.IsProper

namespace Machine

/-- Each function of the machine is proper at some fuel, from every trusted scope. -/
structure Safe (context : Context Scope) (fuel : Nat) : Prop where
  block {scope : Scope} (trusted : scope.IsTrusted context.settings) (block : Block) :
    (runBlock context fuel scope block).IsProper
  statements {scope : Scope} (trusted : scope.IsTrusted context.settings) (last : Value)
    (statements : List Statement) : (runStatements context fuel scope last statements).IsProper
  statement {scope : Scope} (trusted : scope.IsTrusted context.settings) (statement : Statement) :
    (runStatement context fuel scope statement).IsProper
  loop {scope : Scope} (trusted : scope.IsTrusted context.settings) (condition : Expr)
    (body : List Statement) (last : Value) :
    (runLoop context fuel scope condition body last).IsProper
  expr {scope : Scope} (trusted : scope.IsTrusted context.settings) (expr : Expr) :
    (evalExpr context fuel scope expr).IsProper
  node {scope : Scope} (trusted : scope.IsTrusted context.settings) (expr : Expr) :
    (evalNode context fuel scope expr).IsProper
  arguments {scope : Scope} (trusted : scope.IsTrusted context.settings) (args : List Expr) :
    (evalArguments context fuel scope args).IsProper
  index {scope : Scope} (trusted : scope.IsTrusted context.settings) (index : Option Expr) :
    (evalIndex context fuel scope index).IsProper
  call {found : Resolved Scope} (trusted : found.IsTrusted context.settings)
    (values : List Value) : (callFunction context fuel found values).IsProper

theorem safe_zero (context : Context Scope) : Safe context 0 where
  block _ _ := .exhausted
  statements _ _ _ := .exhausted
  statement _ _ := .exhausted
  loop _ _ _ _ := .exhausted
  expr _ _ := .exhausted
  node _ _ := .exhausted
  arguments _ _ := .exhausted
  index _ _ := .exhausted
  call _ _ := .exhausted

namespace Safe

variable {settings : Settings} {traced : Bool} {fuel : Nat} {scope : Scope}

theorem runStatements {context : Context Scope} (safe : Safe context fuel)
    (trusted : scope.IsTrusted context.settings) (last : Value) (statements : List Statement) :
    (runStatements context (fuel + 1) scope last statements).IsProper := by
  cases statements with
  | nil => exact .value last
  | cons statement rest =>
    unfold Machine.runStatements
    exact .bind (safe.statement trusted statement) fun value _ =>
      safe.statements trusted value rest

theorem runStatement {context : Context Scope} (safe : Safe context fuel)
    (trusted : scope.IsTrusted context.settings) (statement : Statement) :
    (runStatement context (fuel + 1) scope statement).IsProper := by
  cases statement with
  | expression expr => exact safe.expr trusted expr
  | branch condition yes no =>
    unfold Machine.runStatement
    refine .bind (safe.expr trusted condition) fun test _ => ?_
    split
    · exact safe.statements trusted _ yes
    · cases no with
      | none => exact .value _
      | some no => exact safe.statements trusted _ no
  | loop condition body => exact safe.loop trusted condition body _

theorem runLoop {context : Context Scope} (safe : Safe context fuel)
    (trusted : scope.IsTrusted context.settings) (condition : Expr) (body : List Statement)
    (last : Value) : (runLoop context (fuel + 1) scope condition body last).IsProper := by
  unfold Machine.runLoop
  refine .bind (safe.expr trusted condition) fun test _ => ?_
  split
  · exact .bind (safe.statements trusted _ body) fun value _ =>
      safe.loop trusted condition body value
  · exact .value last

theorem evalArguments {context : Context Scope} (safe : Safe context fuel)
    (trusted : scope.IsTrusted context.settings) (args : List Expr) :
    (evalArguments context (fuel + 1) scope args).IsProper := by
  cases args with
  | nil => exact .value []
  | cons arg rest =>
    unfold Machine.evalArguments
    exact .bind (safe.expr trusted arg) fun value _ => .bind (.note _ value) fun _ _ =>
      .bind (safe.arguments trusted rest) fun others _ => .value (value :: others)

theorem evalIndex {context : Context Scope} (safe : Safe context fuel)
    (trusted : scope.IsTrusted context.settings) (index : Option Expr) :
    (evalIndex context (fuel + 1) scope index).IsProper := by
  cases index with
  | none => exact .value none
  | some index =>
    unfold Machine.evalIndex
    exact .bind (safe.expr trusted index) fun value _ =>
      .bind (.ofExcept (proper_indexOf value)) fun address _ => .value (some address)

/-- A built-in function is applied to as many values as it was checked for. -/
theorem evalBuiltin (safe : Safe ⟨settings, traced, Scope.lookup⟩ fuel)
    (clock : (Instant.ofMillis? settings.now).isSome = true)
    (trusted : scope.IsTrusted settings) (function : Builtin) (args : List Expr) :
    (evalNode ⟨settings, traced, Scope.lookup⟩ (fuel + 1) scope
      (.builtin function args)).IsProper := by
  unfold Machine.evalNode
  split
  · next accepted =>
    refine .bind (safe.arguments trusted args) fun values gave =>
      .bind (.showArgument _ function values) fun _ _ => .ofExcept ?_
    obtain ⟨machine, ran⟩ := gave
    rw [← evalArguments_length ran] at accepted
    exact Builtin.proper_apply clock accepted
  · exact .fail rfl

theorem evalNode (safe : Safe ⟨settings, traced, Scope.lookup⟩ fuel)
    (clock : (Instant.ofMillis? settings.now).isSome = true)
    (trusted : scope.IsTrusted settings) (expr : Expr) :
    (evalNode ⟨settings, traced, Scope.lookup⟩ (fuel + 1) scope expr).IsProper := by
  cases expr with
  | literal value => exact .value value
  | «variable» target =>
    unfold Machine.evalNode
    exact .bind (safe.index trusted target.index) fun index _ => .read _ target index
  | assign target value =>
    unfold Machine.evalNode
    exact .bind (safe.expr trusted value) fun value _ => .bind (.note _ value) fun _ _ =>
      .bind (safe.index trusted target.index) fun index _ => .write _ target index value
  | binary op left right =>
    unfold Machine.evalNode
    refine .bind (safe.expr trusted left) fun first _ => .bind (.note _ first) fun _ _ => ?_
    cases op.decided? first with
    | some value => exact .value value
    | none =>
      exact .bind (safe.expr trusted right) fun second _ => .bind (.note _ second) fun _ _ =>
        .ofExcept (op.proper_combine settings first second)
  | not operand =>
    unfold Machine.evalNode
    exact .bind (safe.expr trusted operand) fun value _ => .bind (.note _ value) fun _ _ =>
      .value _
  | builtin function args => exact safe.evalBuiltin clock trusted function args
  | call name args =>
    unfold Machine.evalNode
    split
    · exact .fail rfl
    · next found resolved =>
      exact .bind (safe.arguments trusted args) fun values _ =>
        safe.call (trusted.resolve? resolved) values
  | substitute primary fallback =>
    unfold Machine.evalNode
    refine .bind (safe.expr trusted primary) fun value _ => .bind (.note _ value) fun _ _ => ?_
    split
    · exact safe.expr trusted fallback
    · exact .value value

theorem callFunction {context : Context Scope} (safe : Safe context fuel) {found : Resolved Scope}
    (trusted : found.IsTrusted context.settings) (values : List Value) :
    (callFunction context (fuel + 1) found values).IsProper := by
  unfold Machine.callFunction
  cases found with
  | script function home =>
    exact .inFrame _ (.bind (safe.block trusted function.body) fun _ _ =>
      .quiet (fun _ => rfl) fun _ _ failed => by cases failed)
  | native function => exact .inFrame _ (.native trusted)

end Safe

theorem safe {settings : Settings} (clock : (Instant.ofMillis? settings.now).isSome = true)
    (traced : Bool) (fuel : Nat) : Safe ⟨settings, traced, Scope.lookup⟩ fuel := by
  induction fuel with
  | zero => exact safe_zero _
  | succ fuel safe =>
    exact {
      block := fun trusted block => safe.statements (trusted.enter block.functions) _ _
      statements := safe.runStatements
      statement := safe.runStatement
      loop := safe.runLoop
      expr := fun trusted expr => .observe _ expr (safe.node trusted expr)
      node := safe.evalNode clock
      arguments := safe.evalArguments
      index := safe.evalIndex
      call := safe.callFunction }

/-- An index that was evaluated addresses an element within 64 bits. -/
theorem evalIndex_bound {σ : Type} {context : Context σ} {fuel : Nat} {place : σ}
    {index : Option Expr} {machine : Machine} {i : Nat}
    (ran : (evalIndex context fuel place index machine).1 = .ok (some (some i))) :
    i + 1 ≤ twoPow 63 := by
  cases fuel with
  | zero => cases ran
  | succ fuel =>
    cases index with
    | none => cases ran
    | some index =>
      unfold evalIndex at ran
      rcases evaluated : evalExpr context fuel place index machine with ⟨stop | value, after⟩
      · rw [Run.bind_error evaluated] at ran
        cases ran
      rw [Run.bind_ok evaluated] at ran
      cases addressed : indexOf value with
      | error error =>
        rw [addressed] at ran
        cases ran
      | ok address =>
        rw [addressed] at ran
        cases ran
        exact indexOf_bound addressed

end Machine

/-- The errors of an outcome, both the one that it ends with and those in its log, are ordinary. -/
def Outcome.IsProper (outcome : Outcome) : Prop :=
  IsProperLog outcome.log ∧
    ∀ error, outcome.result = .error (.failed error) → error.isOrdinary = true

theorem Run.IsProper.outcome {body : Run Value} (proper : body.IsProper) (names : Namespace) :
    (body.outcome names).IsProper := by
  obtain ⟨log, errors⟩ := proper ⟨names, [], []⟩ fun _ _ _ among => by cases among
  exact ⟨fun node operands error among => log node operands error (List.mem_reverse.1 among),
    errors⟩

namespace Dates

theorem valid_instant? {value : Value} {found : Instant} (given : instant? value = some found) :
    found.Valid := by
  unfold instant? at given
  split at given
  · exact Instant.valid_ofIso? given
  · obtain ⟨millis, -, counted⟩ := Option.bind_eq_some_iff.1 given
    exact Instant.valid_ofMillis? counted
  · cases given

end Dates

/-- The number of a month that the calendar has, and what it is computed from, is far from the ends
of the 64-bit numbers. -/
theorem Date.Valid.fits_months {date : Date} (valid : date.Valid) :
    fitsInt64 (date.year * 12) = true ∧ fitsInt64 (date.year * 12 + date.month) = true ∧
      fitsInt64 (date.year * 12 + date.month - 1) = true := by
  have years := valid.year
  have months := valid.month
  simp only [fitsInt64_iff]
  omega

/-- The time that has passed is a number of 64 bits where both ends are times of the calendar. -/
theorem Instant.Valid.fits_elapsed {found : Instant} (valid : found.Valid) {now : Int}
    (clock : (Instant.ofMillis? now).isSome = true) :
    fitsInt64 found.millis = true ∧ fitsInt64 (now - found.millis) = true := by
  obtain ⟨current, clock⟩ := Option.isSome_iff_exists.1 clock
  have start := valid.millis
  have finish := Instant.bounds_of_ofMillis? clock
  simp only [fitsInt64_iff]
  omega

/-- Where the calendar has the current time and the functions of the host give ordinary errors, no
run of a script or an expression, traced or not, ends with or reports an error that is not ordinary.
In particular a built-in function, which would not be ordinary without an argument that it reads, is
applied to as many values as it was checked for, and only the logical operators, which are settled
without, may not be applied to both operands. Times that have passed, numbers of months and the
lengths of arrays that are grown are within 64 bits. -/
theorem no_impossible_state {settings : Settings} {scope : Scope}
    (clock : (Instant.ofMillis? settings.now).isSome = true) (trusted : scope.IsTrusted settings)
    (traced : Bool) (fuel : Nat) :
    let context : Context Scope := ⟨settings, traced, Scope.lookup⟩
    (∀ (program : Program) names, (program.runWith fuel context scope names).IsProper) ∧
    (∀ expr names, (Run.outcome (Machine.evalExpr context fuel scope expr) names).IsProper) ∧
    (∀ args machine values,
      (Machine.evalArguments context fuel scope args machine).1 = .ok values →
        values.length = args.length) ∧
    (∀ (function : Builtin) (values : List Value),
      function.arity.accepts values.length = true → Proper (function.apply settings values)) ∧
    (∀ (op : Operator) (first second : Value), Proper (op.combine settings first second) ∧
      (Proper (op.apply settings first second) ↔ op ≠ .and ∧ op ≠ .or)) ∧
    (∀ value found, Dates.instant? value = some found →
      fitsInt64 found.millis = true ∧ fitsInt64 (settings.now - found.millis) = true) ∧
    (∀ found, (Instant.ofMillis? settings.now = some found ∨
        ∃ value, Dates.instant? value = some found) →
      fitsInt64 (found.date.year * 12) = true ∧
        fitsInt64 (found.date.year * 12 + found.date.month) = true ∧
        fitsInt64 (found.date.year * 12 + found.date.month - 1) = true) ∧
    (∀ index machine i,
      (Machine.evalIndex context fuel scope index machine).1 = .ok (some (some i)) →
        i + 1 ≤ twoPow 63) := by
  intro context
  have safe := Machine.safe clock traced fuel
  refine ⟨fun program names => ?_, fun expr names => (safe.expr trusted expr).outcome names,
    fun args machine values => Machine.evalArguments_length,
    fun function values => Builtin.proper_apply clock,
    fun op first second => ⟨op.proper_combine settings first second,
      op.proper_apply_iff settings first second⟩,
    fun value found given => (Dates.valid_instant? given).fits_elapsed clock,
    fun found given => ?_, fun index machine i => Machine.evalIndex_bound⟩
  · refine Run.IsProper.outcome ?_ names
    exact .bind (.report traced fun _ _ _ source => by cases source) fun _ _ =>
      safe.block trusted program.body
  · rcases given with current | ⟨value, given⟩
    · exact (Instant.valid_ofMillis? current).date.fits_months
    · exact (Dates.valid_instant? given).date.fits_months

/-- A host function that divides by zero is trusted; a script that calls it, and asks for the days
since a leap second, is traced. -/
theorem no_impossible_state_failing_host :
    let settings := Settings.standard 1735689599000
    let body : NativeBody := fun _ _ => (.error .divisionByZero, [])
    let scope := Scope.root ⟨.empty, Registry.empty.insert "f" ⟨⟨"f", []⟩, body⟩⟩
    let asked : Expr := .builtin .daysBeforeNow [.literal (.text "2016-12-31T23:59:60Z")]
    let program : Program :=
      ⟨"", ⟨[], [.expression (.call "f" []), .expression asked]⟩⟩
    (Instant.ofMillis? settings.now).isSome = true ∧ scope.IsTrusted settings ∧
      ∀ names, (program.trace settings scope names).IsProper := by
  intro settings body scope asked program
  have clock : (Instant.ofMillis? settings.now).isSome = true := by decide
  have trusted : scope.IsTrusted settings := by
    intro entry among names
    cases List.mem_singleton.1 among
    exact .error rfl
  exact ⟨clock, trusted, (no_impossible_state clock trusted true defaultFuel).1 program⟩

end RuleScript
