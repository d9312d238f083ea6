import Mathlib
import RuleScript.Proofs.Nesting
import RuleScript.Proofs.Scope.Declarations

/-!
What a name means after functions were registered. A host registers functions of its own and loads
scripts on the innermost level of a scope, opens levels and closes them. A scope keeps one entry for
each spelling and kind on a level; the history (`History`) has all that was registered on the levels
that are open, and says what a name means without them.
-/
namespace RuleScript

namespace Scope

/-- A step of a host that registers functions. -/
inductive Step
  | defineNative (signature : String) (body : NativeBody)
  | loadFunctions (settings : Settings) (source : String)
  | push
  | pop

/-- The scope with another innermost level. -/
def withLevel (level : Level) : Scope → Scope
  | .root _ => .root level
  | .child _ outer => .child level outer

/-- The scope after a step. One that is refused registers nothing, and the outermost level stays. -/
def after (scope : Scope) : Step → Scope
  | .defineNative signature body =>
    match scope.level.defineNative signature body with
    | .ok level => scope.withLevel level
    | .error _ => scope
  | .loadFunctions settings source =>
    match scope.level.loadFunctions settings source with
    | .ok (level, _) => scope.withLevel level
    | .error _ => scope
  | .push => .child .empty scope
  | .pop =>
    match scope with
    | .root level => .root level
    | .child _ outer => outer

theorem after_defineNative {signature : String} {parsed : Signature}
    (read : Signature.parse signature = .ok parsed) (scope : Scope) (body : NativeBody) :
    scope.after (.defineNative signature body) = scope.withLevel
      { scope.level with
        natives := scope.level.natives.insert parsed.name ⟨parsed, body⟩ } := by
  simp only [after, Level.defineNative, read]
  rfl

theorem after_defineNative_refused {signature : String} {error : EvalError}
    (refused : Signature.parse signature = .error error) (scope : Scope) (body : NativeBody) :
    scope.after (.defineNative signature body) = scope := by
  simp only [after, Level.defineNative, refused]
  rfl

theorem after_loadFunctions {settings : Settings} {source : String} {program : Program}
    (read : Program.parse settings source = .ok program) (scope : Scope) :
    scope.after (.loadFunctions settings source) =
      scope.withLevel (scope.level.defineScripts program.body.functions) := by
  simp only [after, Level.loadFunctions, read]
  rfl

theorem after_loadFunctions_refused {settings : Settings} {source : String} {error : ParseError}
    (refused : Program.parse settings source = .error error) (scope : Scope) :
    scope.after (.loadFunctions settings source) = scope := by
  simp only [after, Level.loadFunctions, refused]
  rfl

/-- Functions are registered on the innermost level. -/
theorem exists_after_eq (level : Level) (outer : Scope) {step : Step} (opens : step ≠ .push)
    (closes : step ≠ .pop) :
    ∃ level', (Scope.child level outer).after step = .child level' outer := by
  cases step with
  | push => exact absurd rfl opens
  | pop => exact absurd rfl closes
  | defineNative signature body =>
    cases read : Signature.parse signature with
    | error error => exact ⟨level, after_defineNative_refused read _ body⟩
    | ok parsed => exact ⟨_, after_defineNative read _ body⟩
  | loadFunctions settings source =>
    cases read : Program.parse settings source with
    | error error => exact ⟨level, after_loadFunctions_refused read _⟩
    | ok program => exact ⟨_, after_loadFunctions read _⟩

end Scope

/-- A function that was registered. -/
inductive Registration
  | script (function : FunctionDef)
  | native (function : NativeFunction)

namespace Registration

def name : Registration → String
  | .script function => function.name
  | .native function => function.signature.name

def script? : Registration → Option FunctionDef
  | .script function => some function
  | .native _ => none

def native? : Registration → Option NativeFunction
  | .script _ => none
  | .native function => some function

/-- What a name means on a level, the last registration first: the last script function that
matches, and failing that the last function of the host. -/
def resolve? (caseSensitive : Bool) (name : String) (home : Scope) (level : List Registration) :
    Option (Resolved Scope) :=
  match (level.filterMap script?).find? fun function =>
      sameName caseSensitive function.name name with
  | some function => some (.script function home)
  | none =>
    ((level.filterMap native?).find? fun function =>
      sameName caseSensitive function.signature.name name).map .native

/-- A name finds the last registration of one kind that matches it, where no two names match that
are spelled differently. -/
theorem find?_registered {α : Type} {registry : Registry α} {registered : List Registration}
    {kind? : Registration → Option α} {key : α → String}
    (named : ∀ registration thing, kind? registration = some thing →
      registration.name = key thing)
    (same : ∀ name, registry.get? name =
      (registered.filterMap kind?).find? fun thing => key thing == name)
    {caseSensitive : Bool}
    (apart : ∀ first ∈ registered, ∀ second ∈ registered,
      sameName caseSensitive first.name second.name = true → first.name = second.name)
    (name : String) :
    registry.find? caseSensitive name =
      (registered.filterMap kind?).find? fun thing => sameName caseSensitive (key thing) name := by
  refine Registry.find?_of_get? same (fun first among second member => ?_) name
  obtain ⟨here, registeredHere, found⟩ := List.mem_filterMap.1 among
  obtain ⟨there, registeredThere, found'⟩ := List.mem_filterMap.1 member
  rw [← named here first found, ← named there second found']
  exact apart here registeredHere there registeredThere

end Registration

/-- All that was registered on the levels that are open: the innermost level first, and on a level
the last registration first. -/
abbrev History := List (List Registration)

namespace History

/-- The history with more registered on the innermost level, in turn. -/
def register (functions : List Registration) : History → History
  | [] => []
  | level :: outer => (functions.reverse ++ level) :: outer

def after (history : History) : Scope.Step → History
  | .defineNative signature body =>
    match Signature.parse signature with
    | .ok parsed => history.register [.native ⟨parsed, body⟩]
    | .error _ => history
  | .loadFunctions settings source =>
    match Program.parse settings source with
    | .ok program => history.register (program.body.functions.map .script)
    | .error _ => history
  | .push => [] :: history
  | .pop =>
    match history with
    | _ :: outer :: rest => outer :: rest
    | history => history

/-- What a name means: the answer of the innermost level that has one, with that level as home. -/
def resolve? (caseSensitive : Bool) (name : String) (scope : Scope) (history : History) :
    Option (Resolved Scope) :=
  (scope.levels.zip history).findSome? fun (home, level) =>
    Registration.resolve? caseSensitive name home level

/-- No level has two names that match and are spelled differently. -/
def IsApart (caseSensitive : Bool) (history : History) : Prop :=
  ∀ level ∈ history, ∀ first ∈ level, ∀ second ∈ level,
    sameName caseSensitive first.name second.name = true → first.name = second.name

end History

namespace Level

/-- The level has what was registered last under each spelling. -/
structure Keeps (level : Level) (registered : List Registration) : Prop where
  scripts (name : String) : level.scripts.get? name =
    (registered.filterMap Registration.script?).find? fun function => function.name == name
  natives (name : String) : level.natives.get? name =
    (registered.filterMap Registration.native?).find? fun function =>
      function.signature.name == name

namespace Keeps

theorem empty : Level.empty.Keeps [] :=
  ⟨fun _ => rfl, fun _ => rfl⟩

variable {level : Level} {registered : List Registration}

theorem native (keeps : level.Keeps registered) (function : NativeFunction) :
    Keeps { level with natives := level.natives.insert function.signature.name function }
      (.native function :: registered) := by
  refine ⟨keeps.scripts, fun name => ?_⟩
  have listed : (Registration.native function :: registered).filterMap Registration.native? =
      function :: registered.filterMap Registration.native? := rfl
  rw [Registry.get?_insert, keeps.natives, listed, List.find?_cons]
  by_cases same : function.signature.name = name
  · rw [if_pos same.symm, beq_iff_eq.2 same]
  · rw [if_neg (Ne.symm same), beq_eq_false_iff_ne.2 same]

theorem declared (keeps : level.Keeps registered) (functions : List FunctionDef) :
    (level.defineScripts functions).Keeps
      ((functions.map Registration.script).reverse ++ registered) := by
  have scripts : ((functions.map Registration.script).reverse).filterMap Registration.script? =
      functions.reverse := by
    rw [← List.map_reverse, List.filterMap_map]
    exact List.filterMap_some
  have natives : ((functions.map Registration.script).reverse).filterMap Registration.native? =
      [] := by
    rw [← List.map_reverse, List.filterMap_map]
    exact List.filterMap_eq_nil_iff.2 fun _ _ => rfl
  refine ⟨fun name => ?_, fun name => ?_⟩
  · rw [get?_defineScripts, keeps.scripts, List.filterMap_append, scripts, List.find?_append]
  · rw [natives_defineScripts, keeps.natives, List.filterMap_append, natives, List.nil_append]

/-- Where no two names match that are spelled differently, the level answers as the history says. -/
theorem resolveHere? {scope : Scope} (keeps : scope.level.Keeps registered) {caseSensitive : Bool}
    (apart : ∀ first ∈ registered, ∀ second ∈ registered,
      sameName caseSensitive first.name second.name = true → first.name = second.name)
    (name : String) :
    scope.resolveHere? caseSensitive name =
      Registration.resolve? caseSensitive name scope registered := by
  have scriptNamed (registration : Registration) (function : FunctionDef)
      (found : registration.script? = some function) : registration.name = function.name := by
    cases registration <;> cases found
    rfl
  have nativeNamed (registration : Registration) (function : NativeFunction)
      (found : registration.native? = some function) :
      registration.name = function.signature.name := by
    cases registration <;> cases found
    rfl
  rw [Scope.resolveHere?, Registration.find?_registered scriptNamed keeps.scripts apart,
    Registration.find?_registered nativeNamed keeps.natives apart]
  rfl

end Keeps
end Level

namespace Scope

/-- Each level has what was registered on it. -/
inductive Keeps : Scope → History → Prop
  | root {level : Level} {registered : List Registration} (here : level.Keeps registered) :
      Keeps (.root level) [registered]
  | child {level : Level} {registered : List Registration} {outer : Scope} {history : History}
      (here : level.Keeps registered) (around : Keeps outer history) :
      Keeps (.child level outer) (registered :: history)

namespace Keeps

variable {scope : Scope} {history : History}

theorem length_levels (keeps : scope.Keeps history) : scope.levels.length = history.length := by
  induction keeps with
  | root _ => rfl
  | child _ _ outward => exact congrArg Nat.succ outward

/-- What is registered on the innermost level goes to its part of the history. -/
theorem register (keeps : scope.Keeps history) {level : Level} {functions : List Registration}
    (more : ∀ registered, scope.level.Keeps registered →
      level.Keeps (functions.reverse ++ registered)) :
    (scope.withLevel level).Keeps (history.register functions) := by
  cases keeps with
  | root here => exact .root (more _ here)
  | child here around => exact .child (more _ here) around

/-- After each step the levels have what was registered on them. -/
theorem after (keeps : scope.Keeps history) (step : Step) :
    (scope.after step).Keeps (history.after step) := by
  cases step with
  | defineNative signature body =>
    cases read : Signature.parse signature with
    | error error =>
      rw [after_defineNative_refused read]
      simpa only [History.after, read] using keeps
    | ok parsed =>
      rw [after_defineNative read]
      simp only [History.after, read]
      exact keeps.register fun _ here => here.native ⟨parsed, body⟩
  | loadFunctions settings source =>
    cases read : Program.parse settings source with
    | error error =>
      rw [after_loadFunctions_refused read]
      simpa only [History.after, read] using keeps
    | ok program =>
      rw [after_loadFunctions read]
      simp only [History.after, read]
      exact keeps.register fun _ here => here.declared program.body.functions
  | push => exact .child .empty keeps
  | pop =>
    cases keeps with
    | root here => exact .root here
    | child _ around =>
      cases around with
      | root here => exact .root here
      | child here further => exact .child here further

theorem foldl_after (keeps : scope.Keeps history) (steps : List Step) :
    (steps.foldl Scope.after scope).Keeps (steps.foldl History.after history) := by
  induction steps generalizing scope history with
  | nil => exact keeps
  | cons step rest others => exact others (keeps.after step)

/-- The scope finds what the history says that a name means. -/
theorem resolve? (keeps : scope.Keeps history) {caseSensitive : Bool}
    (apart : history.IsApart caseSensitive) (name : String) :
    scope.resolve? caseSensitive name = history.resolve? caseSensitive name scope := by
  induction keeps with
  | @root level registered here =>
    have innermost : (Scope.root level).level.Keeps registered := here
    rw [Scope.resolve?, innermost.resolveHere? (apart registered List.mem_cons_self)]
    exact (List.findSome?_singleton ..).symm
  | @child level registered outer history here around outward =>
    have innermost : (Scope.child level outer).level.Keeps registered := here
    rw [Scope.resolve?, innermost.resolveHere? (apart registered List.mem_cons_self),
      outward fun level among => apart level (List.mem_cons_of_mem _ among),
      History.resolve?, History.resolve?, levels, List.zip_cons_cons, List.findSome?_cons]
    dsimp only
    cases Registration.resolve? caseSensitive name (.child level outer) registered <;> rfl

end Keeps

theorem levels_nest :
    Nests Scope.after .push .pop fun outer scope => ∃ level, scope = .child level outer where
  opens _ := ⟨_, rfl⟩
  closes := by
    rintro outer _ ⟨level, rfl⟩
    rfl
  keeps := by
    rintro outer _ step opens closes ⟨level, rfl⟩
    exact exists_after_eq level outer opens closes

end Scope

/-- Whatever a host registers, and whatever levels it opens and closes, a name means what was
registered for it last on the innermost level that has it, script functions first. A signature that
cannot be read and a script that cannot be parsed change nothing on any level, and a level that was
opened and closed again leaves the scope as it was. -/
theorem registrations_resolve (steps : List Scope.Step) :
    let scope := steps.foldl Scope.after .empty
    let history := steps.foldl History.after [[]]
    scope.levels.length = history.length ∧
    (∀ caseSensitive, history.IsApart caseSensitive → ∀ name,
      scope.resolve? caseSensitive name = history.resolve? caseSensitive name scope) ∧
    (∀ signature body error, Signature.parse signature = .error error →
      scope.after (.defineNative signature body) = scope) ∧
    (∀ settings source error, Program.parse settings source = .error error →
      scope.after (.loadFunctions settings source) = scope) ∧
    (∀ inner, Balanced .push .pop inner →
      (.push :: (inner ++ [.pop])).foldl Scope.after scope = scope) := by
  intro scope history
  have keeps : scope.Keeps history := Scope.Keeps.foldl_after (.root .empty) steps
  exact ⟨keeps.length_levels, fun caseSensitive apart => keeps.resolve? apart,
    fun signature body error refused => Scope.after_defineNative_refused refused scope body,
    fun settings source error refused => Scope.after_loadFunctions_refused refused scope,
    fun inner balanced => Scope.levels_nest.foldl_restores balanced ⟨_, rfl⟩⟩

/-- A script function is found in another spelling and from an inner level, though a function of the
host was registered under its name later; a signature without its end registers nothing. -/
theorem registrations_resolve_script_first :
    let early : NativeBody := fun _ _ => (.ok .null, [])
    let late : NativeBody := fun _ _ => (.ok (.boolean true), [])
    let steps : List Scope.Step := [.defineNative "f(x)" early,
      .loadFunctions (.standard 0) "function f(){}", .defineNative "f()" late, .push,
      .defineNative "F(" early]
    let function : FunctionDef := ⟨"f", [], ⟨[], []⟩⟩
    ∃ home, (steps.foldl Scope.after .empty).levels[1]? = some home ∧
      (steps.foldl Scope.after .empty).resolve? false "F" = some (.script function home) := by
  intro early late steps function
  have first : Signature.parse "f(x)" = .ok ⟨"f", ["x"]⟩ := by rfl
  have last : Signature.parse "f()" = .ok ⟨"f", []⟩ := by rfl
  have refused : Signature.parse "F(" = .error (.invalidSignature "F(") := by rfl
  have shown : effectiveSource (.standard 0) "function f(){}" = "function f(){}" := by
    decide +kernel
  have block : Block.parse true "function f(){}" = .ok ⟨[function], []⟩ := by cbv
  have loaded : Program.parse (.standard 0) "function f(){}" =
      .ok ⟨"function f(){}", ⟨[function], []⟩⟩ := by
    unfold Program.parse
    simp only [shown]
    rw [show (Settings.standard 0).caseSensitive = true from rfl, block]
    rfl
  let registered : List Registration :=
    [.native ⟨⟨"f", []⟩, late⟩, .script function, .native ⟨⟨"f", ["x"]⟩, early⟩]
  have history : steps.foldl History.after [[]] = [[], registered] := by
    simp only [steps, List.foldl_cons, List.foldl_nil, History.after, first, last, refused, loaded]
    rfl
  have apart : History.IsApart false [[], registered] := by
    simp [History.IsApart, Registration.name, registered, function]
  have matched : sameName false "f" "F" = true := by decide +kernel
  have outermost (home : Scope) : Registration.resolve? false "F" home registered =
      some (.script function home) := by
    unfold Registration.resolve?
    simp only [registered, List.filterMap_cons, List.filterMap_nil, Registration.script?, function,
      List.find?_cons, matched]
  obtain ⟨length, resolved, -⟩ := registrations_resolve steps
  rw [history] at length resolved
  obtain ⟨inner, home, levels⟩ := List.length_eq_two.1 length
  refine ⟨home, by rw [levels]; rfl, (resolved false apart "F").trans ?_⟩
  rw [History.resolve?, levels, List.zip_cons_cons, List.zip_cons_cons,
    List.findSome?_cons_of_isNone rfl, List.findSome?_cons]
  dsimp only
  rw [outermost home]

end RuleScript
