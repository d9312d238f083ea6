import RuleScript.Proofs.Namespace.Lookup
import RuleScript.Proofs.Run.Effects
import RuleScript.Proofs.Script.Likeness

/-!
Two scripts of one shape, run on two stores. The frames of the two runs are the same at every
moment; what may differ is the spelling of names and what the stores hold. If the stores agree in
what the scripts can see there (`Simulation.Kept`), both runs end alike, and the stores that they
leave agree again (`Simulation.Kept.program`).

A frame has a value for each parameter that got an argument and for the function's own name, so
these names never reach the store; all others may.
-/
namespace RuleScript

/-- The frame that a call of a script function opens. -/
def FunctionDef.frame (caseSensitive : Bool) (function : FunctionDef) (values : List Value) :
    Frame :=
  ((Frame.empty caseSensitive).set function.name .null).bind function.params values

/-- The names that have a value in a call with some number of arguments: the parameters that get
one, and the function's own name. -/
def FunctionDef.filledNames (caseSensitive : Bool) (count : Nat) (function : FunctionDef) :
    List String :=
  ({ function with params := function.params.take count } : FunctionDef).ownNames caseSensitive

namespace Frame

variable {caseSensitive : Bool} {own : Frame}

theorem contains_set_self (regular : own.Regular caseSensitive) (name : String) (value : Value) :
    (own.set name value).entries.contains (foldName caseSensitive name) = true := by
  rw [set, regular.key, Registry.contains, Registry.get?_insert, if_pos rfl]
  rfl

theorem contains_set {name : String} (there : own.entries.contains name = true) (other : String)
    (value : Value) : (own.set other value).entries.contains name = true := by
  rw [set, Registry.contains, Registry.get?_insert]
  split
  · rfl
  · exact there

theorem contains_bind {name : String} (there : own.entries.contains name = true)
    (params : List String) (values : List Value) :
    (own.bind params values).entries.contains name = true := by
  unfold bind
  induction params.zip values generalizing own with
  | nil => exact there
  | cons pair rest others =>
    refine others ?_
    dsimp only
    split
    · exact there
    · exact contains_set there _ _

/-- A parameter that gets an argument has a value, unless it is blank. -/
theorem contains_bind_param (regular : own.Regular caseSensitive) {param : String}
    (named : (Text.trimChars param.toList).isEmpty = false) {params : List String}
    {values : List Value} (among : param ∈ params.take values.length) :
    (own.bind params values).entries.contains (foldName caseSensitive param) = true := by
  induction params generalizing own values with
  | nil => simp at among
  | cons first rest others =>
    cases values with
    | nil => simp at among
    | cons value further =>
      rw [List.length_cons, List.take_succ_cons, List.mem_cons] at among
      change ((if (Text.trimChars first.toList).isEmpty then own else own.set first value).bind
        rest further).entries.contains _ = true
      rcases among with rfl | among
      · rw [named]
        exact contains_bind (contains_set_self regular _ _) _ _
      · split
        · exact others regular among
        · exact others (regular.set _ _) among

end Frame

namespace FunctionDef

theorem frame_regular (caseSensitive : Bool) (function : FunctionDef) (values : List Value) :
    (function.frame caseSensitive values).Regular caseSensitive :=
  ((Frame.regular_empty caseSensitive).set _ _).bind _ _

theorem own_mem_filledNames (caseSensitive : Bool) (count : Nat) (function : FunctionDef) :
    foldName caseSensitive function.name ∈ function.filledNames caseSensitive count :=
  List.mem_append_right _ List.mem_cons_self

theorem frame_contains {caseSensitive : Bool} (function : FunctionDef) (values : List Value)
    {name : String} (among : name ∈ function.filledNames caseSensitive values.length) :
    (function.frame caseSensitive values).entries.contains name = true := by
  have regular : ((Frame.empty caseSensitive).set function.name .null).Regular caseSensitive :=
    (Frame.regular_empty caseSensitive).set _ _
  rcases List.mem_append.1 among with param | itself
  · obtain ⟨spelled, present, rfl⟩ := List.mem_map.1 param
    obtain ⟨taken, named⟩ := List.mem_filter.1 present
    exact Frame.contains_bind_param regular (by simpa using named) taken
  · rw [List.mem_singleton.1 itself]
    exact Frame.contains_bind (Frame.contains_set_self (Frame.regular_empty _) _ _) _ _

end FunctionDef

/-- Two runs end with one value, or with errors that go together. -/
inductive EndsAlike (Error : EvalError → EvalError → Prop) {α : Type} :
    Except Stop α → Except Stop α → Prop
  | value (value : α) : EndsAlike Error (.ok value) (.ok value)
  | failed {error error' : EvalError} (errors : Error error error') :
      EndsAlike Error (.error (.failed error)) (.error (.failed error'))
  | outOfFuel : EndsAlike Error (.error .outOfFuel) (.error .outOfFuel)

namespace Namespace

/-- The same frames over stores that go together. -/
inductive Alike (caseSensitive : Bool) (Stores : Store → Store → Prop) :
    Namespace → Namespace → Prop
  | root {store store' : Store} (stores : Stores store store') :
      Alike caseSensitive Stores (.root store) (.root store')
  | frame {own : Frame} {parent parent' : Namespace} (innermost : own.Regular caseSensitive)
      (others : Alike caseSensitive Stores parent parent') :
      Alike caseSensitive Stores (.frame own parent) (.frame own parent')

/-- The innermost frame has a value for each of the names. -/
def Fills : Namespace → List String → Prop
  | .root _, filled => filled = []
  | .frame own _, filled => ∀ name ∈ filled, own.entries.contains name = true

namespace Alike

variable {caseSensitive : Bool} {Stores : Store → Store → Prop} {names names' : Namespace}

theorem regular (alike : Alike caseSensitive Stores names names') :
    names.Regular caseSensitive ∧ names'.Regular caseSensitive := by
  induction alike with
  | root _ => exact ⟨.root, .root⟩
  | frame innermost _ outer => exact ⟨.frame innermost outer.1, .frame innermost outer.2⟩

theorem store (alike : Alike caseSensitive Stores names names') :
    Stores names.store names'.store := by
  induction alike with
  | root stores => exact stores
  | frame _ _ outer => exact outer

end Alike
end Namespace

/-- Two scripts of one shape, and how their runs are compared. -/
structure Simulation where
  settings : Settings
  traced : Bool
  /-- What may stand for what in a body that runs where the given names are filled, at the given
  place of the first script. -/
  like : List String → Scope → Likeness
  /-- Names that mean the same also where the store is asked for them. -/
  Shared : String → String → Prop
  Stores : Store → Store → Prop
  Error : EvalError → EvalError → Prop
  /-- Places from which functions are found that go together. -/
  Places : Scope → Scope → Prop
  /-- Blocks that go together when they run at the given places, where the given names are
  filled. -/
  Blocks : List String → Scope → Scope → Block → Block → Prop

namespace Simulation

variable {α β : Type} {both : Simulation} {filled : List String} {place : Scope}

def context (both : Simulation) : Context Scope :=
  ⟨both.settings, both.traced, Scope.lookup⟩

/-- The names that the two runs have at one moment. -/
structure Names (both : Simulation) (filled : List String) (names names' : Namespace) : Prop where
  alike : names.Alike both.settings.caseSensitive both.Stores names'
  fills : names.Fills filled

/-- Two parts of the runs that end alike and leave names that are alike. -/
def InStep (both : Simulation) (filled : List String) (body body' : Run α) : Prop :=
  ∀ machine machine', both.Names filled machine.names machine'.names →
    EndsAlike both.Error (body machine).1 (body' machine').1 ∧
      both.Names filled (body machine).2.names (body' machine').2.names

/-- No function found by both runs, or two script functions that go together when they are called
with some number of arguments. -/
inductive Found (both : Simulation) (count : Nat) :
    Option (Resolved Scope) → Option (Resolved Scope) → Prop
  | none : Found both count none none
  | script {function function' : FunctionDef} {home home' : Scope}
      (named : foldName both.settings.caseSensitive function.name =
        foldName both.settings.caseSensitive function'.name)
      (frames : ∀ values, function.frame both.settings.caseSensitive values =
        function'.frame both.settings.caseSensitive values)
      (bodies : both.Blocks (function.filledNames both.settings.caseSensitive count) home home'
        function.body function'.body) :
      Found both count (some (.script function home)) (some (.script function' home'))

/-- The error of an assignment to an index without an element. -/
def unwritable (target : VarRef) : EvalError :=
  .typeError ("cannot write " ++ target.display ++ " with a null or negative index")

/-- What two scripts and their stores need to run in step. -/
structure Kept (both : Simulation) : Prop where
  sameError (error : EvalError) : both.Error error error
  literal {filled : List String} {place : Scope} {value value' : Value}
    (values : (both.like filled place).Literal value value') : value = value'
  alike {filled : List String} {place : Scope} {name name' : String}
    (names : (both.like filled place).Variable name name') :
    foldName both.settings.caseSensitive name = foldName both.settings.caseSensitive name'
  shared {filled : List String} {place : Scope} {name name' : String}
    (names : (both.like filled place).Variable name name') :
    foldName both.settings.caseSensitive name ∈ filled ∨ both.Shared name name'
  unwritable {filled : List String} {place : Scope} {target target' : VarRef}
    (targets : VarRef.Like (both.like filled place) target target') :
    both.Error (unwritable target) (unwritable target')
  unresolved {filled : List String} {place : Scope} {count : Nat} {name name' : String}
    (names : (both.like filled place).Call count name name') :
    both.Error (.unresolvedFunction name) (.unresolvedFunction name')
  slot {store store' : Store} (stores : both.Stores store store') {name name' : String}
    (names : both.Shared name name') :
    store.slot? both.settings.caseSensitive name = store'.slot? both.settings.caseSensitive name'
  change {store store' : Store} (stores : both.Stores store store') {name name' : String}
    (names : both.Shared name name') (change : Option Value → Value) :
    both.Stores (store.change both.settings.caseSensitive name change)
      (store'.change both.settings.caseSensitive name' change)
  enter {filled : List String} {place place' : Scope} {block block' : Block}
    (blocks : both.Blocks filled place place' block block') :
    both.Places (place.enter block.functions) (place'.enter block'.functions) ∧
      StatementsLike (both.like filled (place.enter block.functions)) block.statements
        block'.statements
  resolve {filled : List String} {place place' : Scope} (places : both.Places place place')
    {count : Nat} {name name' : String} (names : (both.like filled place).Call count name name') :
    both.Found count (place.resolve? both.settings.caseSensitive name)
      (place'.resolve? both.settings.caseSensitive name')

section Names

variable {names names' : Namespace} {name name' : String}

theorem Kept.search? (kept : both.Kept)
    (alike : names.Alike both.settings.caseSensitive both.Stores names')
    (same : foldName both.settings.caseSensitive name =
      foldName both.settings.caseSensitive name') (shared : both.Shared name name') :
    names.search? both.settings.caseSensitive name =
      names'.search? both.settings.caseSensitive name' := by
  induction alike with
  | root stores => exact kept.slot stores shared
  | frame _ _ outward => rw [Namespace.search?, Namespace.search?, same, outward]

/-- Both runs see the same under names that go together. -/
theorem Kept.seen? (kept : both.Kept) (related : both.Names filled names names') (isLocal : Bool)
    (spelled : (both.like filled place).Variable name name') :
    names.seen? both.settings.caseSensitive isLocal name =
      names'.seen? both.settings.caseSensitive isLocal name' := by
  have same := kept.alike spelled
  obtain ⟨alike, fills⟩ := related
  cases alike with
  | root stores =>
    rcases kept.shared spelled with among | shared
    · rw [show filled = [] from fills] at among
      cases among
    · exact kept.slot stores shared
  | @frame own _ _ innermost others =>
    cases isLocal with
    | true => dsimp only [Namespace.seen?]; rw [same]
    | false =>
      change (own.entries.get? _).or _ = (own.entries.get? _).or _
      rcases kept.shared spelled with among | shared
      · obtain ⟨value, bound⟩ := Option.isSome_iff_exists.1 (fills _ among)
        rw [← same, bound, Option.some_or, Option.some_or]
      · rw [same, kept.search? others same shared]

/-- Writing names that go together keeps the namespaces alike. -/
theorem Kept.put (kept : both.Kept) (related : both.Names filled names names') (isLocal : Bool)
    (spelled : (both.like filled place).Variable name name') (value : Value) (index : Option Nat) :
    both.Names filled
      (names.put both.settings.caseSensitive isLocal name value index)
      (names'.put both.settings.caseSensitive isLocal name' value index) := by
  have same := kept.alike spelled
  have seen := kept.seen? related isLocal spelled
  obtain ⟨alike, fills⟩ := related
  cases alike with
  | root stores =>
    rcases kept.shared spelled with among | shared
    · rw [show filled = [] from fills] at among
      cases among
    · exact ⟨.root (kept.change stores shared _), fills⟩
  | frame innermost others =>
    dsimp only [Namespace.put]
    rw [← seen, ← innermost.set_congr same]
    exact ⟨.frame (innermost.set _ _) others,
      fun other among => Frame.contains_set (fills other among) _ _⟩

end Names

namespace InStep

theorem value (value : α) : both.InStep filled (pure value) (pure value) :=
  fun _ _ names => ⟨.value value, names⟩

theorem fail {error error' : EvalError} (errors : both.Error error error') :
    both.InStep filled (Run.fail error : Run α) (Run.fail error') :=
  fun _ _ names => ⟨.failed errors, names⟩

theorem exhausted : both.InStep filled (throw .outOfFuel : Run α) (throw .outOfFuel) :=
  fun _ _ names => ⟨.outOfFuel, names⟩

/-- What comes next may count on a value that the first part can have. -/
theorem bind {body body' : Run α} {next next' : α → Run β} (bodies : both.InStep filled body body')
    (nexts : ∀ value, (∃ machine, (body machine).1 = .ok value) →
      both.InStep filled (next value) (next' value)) :
    both.InStep filled (body >>= next) (body' >>= next') := by
  intro machine machine' names
  obtain ⟨ends, after⟩ := bodies machine machine' names
  rcases ran : body machine with ⟨result, rest⟩
  rcases ran' : body' machine' with ⟨result', rest'⟩
  rw [ran, ran'] at ends after
  cases ends with
  | value value =>
    rw [Run.bind_ok ran, Run.bind_ok ran']
    exact nexts value ⟨machine, by rw [ran]⟩ rest rest' after
  | failed errors =>
    rw [Run.bind_error ran, Run.bind_error ran']
    exact ⟨.failed errors, after⟩
  | outOfFuel =>
    rw [Run.bind_error ran, Run.bind_error ran']
    exact ⟨.outOfFuel, after⟩

/-- A part that tells nothing and leaves the names alone does so in both runs. -/
theorem silent {body : Run Unit}
    (quiet : ∀ machine, (body machine).1 = .ok () ∧ (body machine).2.names = machine.names) :
    both.InStep filled body body := by
  intro machine machine' names
  rw [(quiet machine).1, (quiet machine').1, (quiet machine).2, (quiet machine').2]
  exact ⟨.value (), names⟩

theorem note (value : Value) :
    both.InStep filled (Run.note both.traced value) (Run.note both.traced value) :=
  silent fun _ => by cases both.traced <;> exact ⟨rfl, rfl⟩

theorem report (event event' : TraceEvent) :
    both.InStep filled (Run.report both.traced event) (Run.report both.traced event') := by
  intro machine machine' names
  cases both.traced <;> exact ⟨.value (), names⟩

theorem showArgument (function : Builtin) (values : List Value) :
    both.InStep filled (Run.showArgument both.traced function values)
      (Run.showArgument both.traced function values) := by
  unfold Run.showArgument
  split
  · exact report _ _
  · exact value ()

/-- A node that fails in both runs counts as null in both when they are traced. -/
theorem observe (node node' : Expr) {body body' : Run Value}
    (bodies : both.InStep filled body body') :
    both.InStep filled (Run.observe both.traced node body)
      (Run.observe both.traced node' body') := by
  intro machine machine' names
  unfold Run.observe
  cases both.traced with
  | false => exact bodies machine machine' names
  | true =>
    simp only [if_true]
    obtain ⟨ends, after⟩ :=
      bodies { machine with operands := [] } { machine' with operands := [] } names
    rcases ran : body { machine with operands := [] } with ⟨result, rest⟩
    rcases ran' : body' { machine' with operands := [] } with ⟨result', rest'⟩
    rw [ran, ran'] at ends after
    cases ends with
    | value value => exact ⟨.value value, after⟩
    | failed errors => exact ⟨.value _, after⟩
    | outOfFuel => exact ⟨.outOfFuel, after⟩

/-- The result of a call is in the frame of both runs. -/
theorem ownValue {name name' : String}
    (same : foldName both.settings.caseSensitive name =
      foldName both.settings.caseSensitive name')
    (among : foldName both.settings.caseSensitive name ∈ filled) :
    both.InStep filled (Run.ownValue name) (Run.ownValue name') := by
  rintro ⟨names, log, operands⟩ ⟨names', log', operands'⟩ related
  obtain ⟨alike, fills⟩ := related
  dsimp only at alike fills
  cases alike with
  | root stores =>
    rw [show filled = [] from fills] at among
    cases among
  | @frame own parent parent' innermost others =>
    have read : (Namespace.frame own parent).getLocal name =
        (Namespace.frame own parent').getLocal name' := by
      dsimp only [Namespace.getLocal]
      rw [innermost.get?, innermost.get?, same]
    refine ⟨?_, .frame innermost others, fills⟩
    dsimp only [Run.ownValue]
    rw [read]
    exact .value _

end InStep

namespace Kept

theorem ofExcept (kept : both.Kept) (result : Except EvalError α) :
    both.InStep filled (Run.ofExcept result) (Run.ofExcept result) := by
  cases result with
  | ok value => exact .value value
  | error error => exact .fail (kept.sameError error)

theorem read (kept : both.Kept) {target target' : VarRef}
    (targets : VarRef.Like (both.like filled place) target target') (index : Option (Option Nat)) :
    both.InStep filled (Run.read both.settings.caseSensitive target index)
      (Run.read both.settings.caseSensitive target' index) := by
  intro machine machine' names
  cases targets with
  | mk spelled indices =>
    obtain ⟨regular, regular'⟩ := names.alike.regular
    unfold Run.read
    dsimp only
    rw [Namespace.readAt_resolveName regular, Namespace.readAt_resolveName regular',
      kept.seen? names _ spelled]
    exact ⟨.value _, names⟩

/-- Writing an element, or the whole variable, in both runs. -/
theorem written (kept : both.Kept) {name name' : String}
    (spelled : (both.like filled place).Variable name name') (isLocal : Bool) (value : Value)
    (written : Option Nat) (index : Option (Option Nat)) {machine machine' : Machine}
    (names : both.Names filled machine.names machine'.names) :
    EndsAlike both.Error
        (.ok ((machine.names.put both.settings.caseSensitive isLocal name value written).readAt
          isLocal (machine.names.resolveName both.settings.caseSensitive name) index) :
            Except Stop Value)
        (.ok ((machine'.names.put both.settings.caseSensitive isLocal name' value written).readAt
          isLocal (machine'.names.resolveName both.settings.caseSensitive name') index)) ∧
      both.Names filled
        (machine.names.put both.settings.caseSensitive isLocal name value written)
        (machine'.names.put both.settings.caseSensitive isLocal name' value written) := by
  obtain ⟨regular, regular'⟩ := names.alike.regular
  rw [Namespace.readAt_put regular, Namespace.readAt_put regular', kept.seen? names _ spelled]
  exact ⟨.value _, kept.put names isLocal spelled value written⟩

theorem write (kept : both.Kept) {target target' : VarRef}
    (targets : VarRef.Like (both.like filled place) target target') (index : Option (Option Nat))
    (value : Value) :
    both.InStep filled (Run.write both.settings.caseSensitive target index value)
      (Run.write both.settings.caseSensitive target' index value) := by
  intro machine machine' names
  have errors := kept.unwritable targets
  cases targets with
  | mk spelled indices =>
    obtain ⟨regular, regular'⟩ := names.alike.regular
    unfold Run.write
    dsimp only
    rw [Namespace.writeAt?_resolveName regular, Namespace.writeAt?_resolveName regular']
    match index with
    | none => exact kept.written spelled _ value none none names
    | some none => exact ⟨.failed errors, names⟩
    | some (some i) => exact kept.written spelled _ value (some i) (some (some i)) names

end Kept

/-- Each function of the machine runs in step at some fuel. -/
structure Holds (both : Simulation) (fuel : Nat) : Prop where
  block {filled : List String} {place place' : Scope} {block block' : Block}
    (blocks : both.Blocks filled place place' block block') :
    both.InStep filled (Machine.runBlock both.context fuel place block)
      (Machine.runBlock both.context fuel place' block')
  statements {filled : List String} {place place' : Scope} {statements statements' : List Statement}
    (last : Value) (places : both.Places place place')
    (like : StatementsLike (both.like filled place) statements statements') :
    both.InStep filled (Machine.runStatements both.context fuel place last statements)
      (Machine.runStatements both.context fuel place' last statements')
  statement {filled : List String} {place place' : Scope} {statement statement' : Statement}
    (places : both.Places place place')
    (like : Statement.Like (both.like filled place) statement statement') :
    both.InStep filled (Machine.runStatement both.context fuel place statement)
      (Machine.runStatement both.context fuel place' statement')
  loop {filled : List String} {place place' : Scope} {condition condition' : Expr}
    {body body' : List Statement} (last : Value) (places : both.Places place place')
    (conditions : Expr.Like (both.like filled place) condition condition')
    (bodies : StatementsLike (both.like filled place) body body') :
    both.InStep filled (Machine.runLoop both.context fuel place condition body last)
      (Machine.runLoop both.context fuel place' condition' body' last)
  expr {filled : List String} {place place' : Scope} {expr expr' : Expr}
    (places : both.Places place place') (like : Expr.Like (both.like filled place) expr expr') :
    both.InStep filled (Machine.evalExpr both.context fuel place expr)
      (Machine.evalExpr both.context fuel place' expr')
  node {filled : List String} {place place' : Scope} {expr expr' : Expr}
    (places : both.Places place place') (like : Expr.Like (both.like filled place) expr expr') :
    both.InStep filled (Machine.evalNode both.context fuel place expr)
      (Machine.evalNode both.context fuel place' expr')
  arguments {filled : List String} {place place' : Scope} {args args' : List Expr}
    (places : both.Places place place') (like : ArgumentsLike (both.like filled place) args args') :
    both.InStep filled (Machine.evalArguments both.context fuel place args)
      (Machine.evalArguments both.context fuel place' args')
  index {filled : List String} {place place' : Scope} {index index' : Option Expr}
    (places : both.Places place place') (like : IndexLike (both.like filled place) index index') :
    both.InStep filled (Machine.evalIndex both.context fuel place index)
      (Machine.evalIndex both.context fuel place' index')
  call {filled : List String} {found found' : Resolved Scope} {values : List Value}
    (matched : both.Found values.length (some found) (some found')) :
    both.InStep filled (Machine.callFunction both.context fuel found values)
      (Machine.callFunction both.context fuel found' values)

theorem holds_zero : both.Holds 0 where
  block _ := .exhausted
  statements _ _ _ := .exhausted
  statement _ _ := .exhausted
  loop _ _ _ _ := .exhausted
  expr _ _ := .exhausted
  node _ _ := .exhausted
  arguments _ _ := .exhausted
  index _ _ := .exhausted
  call _ := .exhausted

end Simulation

/-- A call has as many values as it has arguments. -/
theorem Machine.evalArguments_length {σ : Type} {context : Context σ} {fuel : Nat} {place : σ}
    {args : List Expr} {machine : Machine} {values : List Value}
    (ran : (evalArguments context fuel place args machine).1 = .ok values) :
    values.length = args.length := by
  induction args generalizing fuel machine values with
  | nil =>
    cases fuel with
    | zero => cases ran
    | succ fuel =>
      cases ran
      rfl
  | cons arg rest others =>
    cases fuel with
    | zero => cases ran
    | succ fuel =>
      unfold evalArguments at ran
      rcases first : evalExpr context fuel place arg machine with ⟨stop | value, after⟩
      · rw [Run.bind_error first] at ran
        cases ran
      rw [Run.bind_ok first] at ran
      rcases noted : Run.note context.traced value after with ⟨stop | none, further⟩
      · rw [Run.bind_error noted] at ran
        cases ran
      rw [Run.bind_ok noted] at ran
      rcases second : evalArguments context fuel place rest further with ⟨stop | tail, last⟩
      · rw [Run.bind_error second] at ran
        cases ran
      rw [Run.bind_ok second] at ran
      cases ran
      rw [List.length_cons, List.length_cons, others (by rw [second])]

namespace Simulation.Kept

variable {both : Simulation} {filled : List String} {fuel : Nat} {place place' : Scope}

theorem runBlock (kept : both.Kept) (holds : both.Holds fuel) {block block' : Block}
    (blocks : both.Blocks filled place place' block block') :
    both.InStep filled (Machine.runBlock both.context (fuel + 1) place block)
      (Machine.runBlock both.context (fuel + 1) place' block') := by
  obtain ⟨places, like⟩ := kept.enter blocks
  exact holds.statements .null places like

theorem runStatements (holds : both.Holds fuel) {statements statements' : List Statement}
    (last : Value) (places : both.Places place place')
    (like : StatementsLike (both.like filled place) statements statements') :
    both.InStep filled (Machine.runStatements both.context (fuel + 1) place last statements)
      (Machine.runStatements both.context (fuel + 1) place' last statements') := by
  cases like with
  | nil => exact .value last
  | cons first others =>
    unfold Machine.runStatements
    exact .bind (holds.statement places first) fun value _ => holds.statements value places others

theorem runStatement (holds : both.Holds fuel) {statement statement' : Statement}
    (places : both.Places place place')
    (like : Statement.Like (both.like filled place) statement statement') :
    both.InStep filled (Machine.runStatement both.context (fuel + 1) place statement)
      (Machine.runStatement both.context (fuel + 1) place' statement') := by
  cases like with
  | expression values => exact holds.expr places values
  | branch conditions held otherwise =>
    unfold Machine.runStatement
    refine .bind (holds.expr places conditions) fun test _ => ?_
    split
    · exact holds.statements .null places held
    · cases otherwise with
      | none => exact .value _
      | some others => exact holds.statements .null places others
  | loop conditions bodies => exact holds.loop .null places conditions bodies

theorem runLoop (holds : both.Holds fuel) {condition condition' : Expr}
    {body body' : List Statement} (last : Value) (places : both.Places place place')
    (conditions : Expr.Like (both.like filled place) condition condition')
    (bodies : StatementsLike (both.like filled place) body body') :
    both.InStep filled (Machine.runLoop both.context (fuel + 1) place condition body last)
      (Machine.runLoop both.context (fuel + 1) place' condition' body' last) := by
  unfold Machine.runLoop
  refine .bind (holds.expr places conditions) fun test _ => ?_
  split
  · exact .bind (holds.statements .null places bodies) fun value _ =>
      holds.loop value places conditions bodies
  · exact .value last

theorem evalExpr (holds : both.Holds fuel) {expr expr' : Expr} (places : both.Places place place')
    (like : Expr.Like (both.like filled place) expr expr') :
    both.InStep filled (Machine.evalExpr both.context (fuel + 1) place expr)
      (Machine.evalExpr both.context (fuel + 1) place' expr') :=
  .observe expr expr' (holds.node places like)

/-- Both runs call the functions that they found, or fail where there is none. -/
theorem evalCall (kept : both.Kept) (holds : both.Holds fuel) (places : both.Places place place')
    {name name' : String} {args args' : List Expr}
    (names : (both.like filled place).Call args.length name name')
    (arguments : ArgumentsLike (both.like filled place) args args') :
    both.InStep filled (Machine.evalNode both.context (fuel + 1) place (.call name args))
      (Machine.evalNode both.context (fuel + 1) place' (.call name' args')) := by
  have found := kept.resolve places names
  unfold Machine.evalNode
  dsimp only [context, Scope.lookup]
  generalize Scope.resolve? both.settings.caseSensitive name place = first at found ⊢
  generalize Scope.resolve? both.settings.caseSensitive name' place' = second at found ⊢
  cases found with
  | none => exact .fail (kept.unresolved names)
  | script named frames bodies =>
    refine .bind (holds.arguments places arguments) fun values gave => holds.call ?_
    obtain ⟨machine, ran⟩ := gave
    rw [Machine.evalArguments_length ran]
    exact .script named frames bodies

theorem evalNode (kept : both.Kept) (holds : both.Holds fuel) {expr expr' : Expr}
    (places : both.Places place place') (like : Expr.Like (both.like filled place) expr expr') :
    both.InStep filled (Machine.evalNode both.context (fuel + 1) place expr)
      (Machine.evalNode both.context (fuel + 1) place' expr') := by
  cases like with
  | literal values =>
    rw [kept.literal values]
    exact .value _
  | «variable» targets =>
    unfold Machine.evalNode
    refine .bind (holds.index places ?_) fun index _ => kept.read targets index
    cases targets with
    | mk _ indices => exact indices
  | assign targets values =>
    unfold Machine.evalNode
    refine .bind (holds.expr places values) fun value _ => .bind (.note value) fun _ _ =>
      .bind (holds.index places ?_) fun index _ => kept.write targets index value
    cases targets with
    | mk _ indices => exact indices
  | @binary op _ _ _ _ lefts rights =>
    unfold Machine.evalNode
    refine .bind (holds.expr places lefts) fun first _ => .bind (.note first) fun _ _ => ?_
    cases op.decided? first with
    | some value => exact .value value
    | none =>
      exact .bind (holds.expr places rights) fun second _ => .bind (.note second) fun _ _ =>
        kept.ofExcept _
  | not operands =>
    unfold Machine.evalNode
    exact .bind (holds.expr places operands) fun value _ => .bind (.note value) fun _ _ =>
      .value _
  | builtin arguments =>
    unfold Machine.evalNode
    rw [arguments.length_eq]
    split
    · exact .bind (holds.arguments places arguments) fun values _ =>
        .bind (.showArgument _ values) fun _ _ => kept.ofExcept _
    · exact .fail (kept.sameError _)
  | call names arguments => exact kept.evalCall holds places names arguments
  | substitute primaries fallbacks =>
    unfold Machine.evalNode
    refine .bind (holds.expr places primaries) fun value _ => .bind (.note value) fun _ _ => ?_
    split
    · exact holds.expr places fallbacks
    · exact .value value

theorem evalArguments (holds : both.Holds fuel) {args args' : List Expr}
    (places : both.Places place place') (like : ArgumentsLike (both.like filled place) args args') :
    both.InStep filled (Machine.evalArguments both.context (fuel + 1) place args)
      (Machine.evalArguments both.context (fuel + 1) place' args') := by
  cases like with
  | nil => exact .value []
  | cons first others =>
    unfold Machine.evalArguments
    exact .bind (holds.expr places first) fun value _ => .bind (.note value) fun _ _ =>
      .bind (holds.arguments places others) fun rest _ => .value (value :: rest)

theorem evalIndex (kept : both.Kept) (holds : both.Holds fuel) {index index' : Option Expr}
    (places : both.Places place place') (like : IndexLike (both.like filled place) index index') :
    both.InStep filled (Machine.evalIndex both.context (fuel + 1) place index)
      (Machine.evalIndex both.context (fuel + 1) place' index') := by
  cases like with
  | none => exact .value none
  | some indices =>
    unfold Machine.evalIndex
    exact .bind (holds.expr places indices) fun value _ => .bind (kept.ofExcept _) fun address _ =>
      .value (some address)

/-- The bodies run on the same frame, and the names of the callers are as before. -/
theorem callFunction (holds : both.Holds fuel) {found found' : Resolved Scope}
    {values : List Value} (matched : both.Found values.length (some found) (some found')) :
    both.InStep filled (Machine.callFunction both.context (fuel + 1) found values)
      (Machine.callFunction both.context (fuel + 1) found' values) := by
  intro machine machine' names
  refine ⟨?_, ?_⟩
  · cases matched with
    | @script function function' home home' named frames bodies =>
      have opened : both.Names
          (function.filledNames both.settings.caseSensitive values.length)
          (.frame (function.frame both.settings.caseSensitive values) machine.names)
          (.frame (function'.frame both.settings.caseSensitive values) machine'.names) := by
        rw [← frames]
        exact ⟨.frame (function.frame_regular _ _) names.alike,
          fun name among => function.frame_contains values among⟩
      have inner := InStep.bind (holds.block bodies) fun _ _ =>
        InStep.ownValue named (function.own_mem_filledNames _ _)
      exact (inner { machine with names := _ } { machine' with names := _ } opened).1
  · rw [(Machine.confined both.context (fuel + 1)).call found values machine,
      (Machine.confined both.context (fuel + 1)).call found' values machine']
    exact names

/-- What one step keeps, whole runs keep. -/
theorem holds (kept : both.Kept) (fuel : Nat) : both.Holds fuel := by
  induction fuel with
  | zero => exact holds_zero
  | succ fuel holds =>
    exact {
      block := kept.runBlock holds
      statements := runStatements holds
      statement := runStatement holds
      loop := runLoop holds
      expr := evalExpr holds
      node := kept.evalNode holds
      arguments := evalArguments holds
      index := kept.evalIndex holds
      call := callFunction holds }

/-- Two scripts whose bodies go together end alike, and leave stores that go together. -/
theorem program (kept : both.Kept) {program program' : Program}
    (bodies : both.Blocks [] place place' program.body program'.body) (fuel : Nat)
    {store store' : Store} (stores : both.Stores store store') :
    EndsAlike both.Error
        (program.runWith fuel both.context place (.root store)).result
        (program'.runWith fuel both.context place' (.root store')).result ∧
      both.Stores
        (program.runWith fuel both.context place (.root store)).names.store
        (program'.runWith fuel both.context place' (.root store')).names.store := by
  have steps : both.InStep [] (program.steps fuel both.context place)
      (program'.steps fuel both.context place') :=
    .bind (.report _ _) fun _ _ => (kept.holds fuel).block bodies
  obtain ⟨ends, after⟩ := steps ⟨.root store, [], []⟩ ⟨.root store', [], []⟩ ⟨.root stores, rfl⟩
  exact ⟨ends, after.alike.store⟩

end Simulation.Kept
end RuleScript
