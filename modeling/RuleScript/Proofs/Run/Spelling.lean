import Mathlib.Data.List.Forall2
import RuleScript.Proofs.Namespace.Tidy
import RuleScript.Proofs.Run.Lexical
import RuleScript.Proofs.Run.Simulation
import RuleScript.Proofs.Script.Calls

/-!
Where case does not count, the spelling of names does not matter. Names are folded in several
places: by the frames and by a folding store in their keys, by the namespace when it resolves a
name, and by the scopes when they look for a function. On a store that holds no two names of one
meaning (`Store.Tidy`) all of these agree, so scripts that differ only in the spelling of names
(`Block.Respelled`) run alike.
-/
namespace RuleScript

/-- The same names up to spelling, and the same literals. -/
def Likeness.respelled : Likeness where
  Literal value value' := value = value'
  Variable name name' := Text.lower name = Text.lower name'
  Call _ name name' := Text.lower name = Text.lower name'

mutual

/-- Two functions that differ only in the spelling of names. -/
inductive FunctionDef.Respelled : FunctionDef → FunctionDef → Prop
  | mk {name name' : String} {params params' : List String} {body body' : Block}
      (named : Text.lower name = Text.lower name')
      (parameters : params.map Text.lower = params'.map Text.lower)
      (bodies : Block.Respelled body body') :
      FunctionDef.Respelled ⟨name, params, body⟩ ⟨name', params', body'⟩

/-- Two blocks that differ only in the spelling of names. -/
inductive Block.Respelled : Block → Block → Prop
  | mk {functions functions' : List FunctionDef} {statements statements' : List Statement}
      (declared : List.Forall₂ FunctionDef.Respelled functions functions')
      (same : StatementsLike .respelled statements statements') :
      Block.Respelled ⟨functions, statements⟩ ⟨functions', statements'⟩

end

mutual

theorem Block.respelled_self : (block : Block) → block.Respelled block
  | ⟨functions, statements⟩ =>
    .mk (functions_respelled_self functions)
      (statements_like_self (fun _ => rfl) statements ⟨fun _ _ => rfl, fun _ _ _ => rfl⟩)

theorem FunctionDef.respelled_self : (function : FunctionDef) → function.Respelled function
  | ⟨_, _, body⟩ => .mk rfl rfl body.respelled_self

theorem functions_respelled_self :
    (functions : List FunctionDef) → List.Forall₂ FunctionDef.Respelled functions functions
  | [] => .nil
  | function :: rest => .cons function.respelled_self (functions_respelled_self rest)

end

/-- No block declares two functions of one name in two spellings. -/
def Block.Apart (block : Block) : Prop :=
  ∀ inner ∈ block.nested, SpelledAlike false inner.functions

theorem Block.Apart.function {block : Block} (apart : block.Apart) {function : FunctionDef}
    (declared : function ∈ block.functions) : function.body.Apart :=
  fun inner within => apart inner (mem_nested_iff.2 (.inr ⟨function, declared, within⟩))

/-- All functions of the scope are script functions, and in none of them a block declares two
functions of one name in two spellings. -/
def Scope.Apart (scope : Scope) : Prop :=
  ∀ inner ∈ scope.levels, inner.level.natives.entries = [] ∧
    ∀ entry ∈ inner.level.scripts.entries, entry.2.body.Apart

namespace FunctionDef

/-- Two functions that differ only in spelling, and whose blocks tell their functions apart. -/
structure Paired (function function' : FunctionDef) : Prop where
  respelled : function.Respelled function'
  apart : function.body.Apart
  apart' : function'.body.Apart

variable {function function' : FunctionDef}

theorem Respelled.name (respelled : function.Respelled function') :
    Text.lower function.name = Text.lower function'.name := by
  cases respelled with
  | mk named _ _ => exact named

theorem Respelled.body (respelled : function.Respelled function') :
    function.body.Respelled function'.body := by
  cases respelled with
  | mk _ _ bodies => exact bodies

end FunctionDef

/-- Parameters that differ only in spelling are bound alike, blank ones included. -/
theorem Frame.Regular.bind_congr {own : Frame} (regular : own.Regular false)
    {params params' : List String} (same : params.map Text.lower = params'.map Text.lower)
    (values : List Value) : own.bind params values = own.bind params' values := by
  induction params generalizing own params' values with
  | nil =>
    cases params' with
    | nil => rfl
    | cons first rest => cases same
  | cons first rest others =>
    cases params' with
    | nil => cases same
    | cons first' rest' =>
      obtain ⟨alike, further⟩ := List.cons.inj same
      cases values with
      | nil => rfl
      | cons value values =>
        have bound : (if (Text.trimChars first.toList).isEmpty then own else own.set first value) =
            if (Text.trimChars first'.toList).isEmpty then own else own.set first' value := by
          rw [Text.trimChars_isEmpty_of_lower_eq alike, regular.set_congr alike]
        change (if (Text.trimChars first.toList).isEmpty then own else own.set first value).bind
          rest values = (if (Text.trimChars first'.toList).isEmpty then own
            else own.set first' value).bind rest' values
        rw [bound]
        refine others ?_ further values
        split
        · exact regular
        · exact regular.set _ _

theorem FunctionDef.Respelled.frame {function function' : FunctionDef}
    (respelled : function.Respelled function') (values : List Value) :
    function.frame false values = function'.frame false values := by
  cases respelled with
  | mk named parameters _ =>
    have empty := Frame.regular_empty false
    unfold FunctionDef.frame
    rw [empty.set_congr named]
    exact (empty.set _ _).bind_congr parameters values

/-- On related lists a search with tests that agree finds related things. -/
theorem find?_of_forall₂ {α β : Type} {related : α → β → Prop} {test : α → Bool}
    {test' : β → Bool} (agree : ∀ {first second}, related first second → test first = test' second)
    {firsts : List α} {seconds : List β} (all : List.Forall₂ related firsts seconds) :
    Option.Rel related (firsts.find? test) (seconds.find? test') := by
  induction all with
  | nil => exact .none
  | @cons first second _ _ head _ rest =>
    rw [List.find?_cons, List.find?_cons, agree head]
    cases test' second with
    | true => exact .some head
    | false => exact rest

/-- The levels have script functions only, and functions that go together under names that go
together. -/
structure Level.Alike (level level' : Level) : Prop where
  natives : level.natives.entries = []
  natives' : level'.natives.entries = []
  scripts {name name' : String} (same : Text.lower name = Text.lower name') :
    Option.Rel FunctionDef.Paired (level.scripts.find? false name)
      (level'.scripts.find? false name')

theorem sameName_congr {name name' other other' : String}
    (same : Text.lower name = Text.lower name') (same' : Text.lower other = Text.lower other') :
    sameName false name other = sameName false name' other' := by
  rw [Bool.eq_iff_iff, sameName_iff, sameName_iff]
  simp only [foldName_false, same, same']

theorem Registry.find?_congr {α : Type} (registry : Registry α) {name name' : String}
    (same : Text.lower name = Text.lower name') :
    registry.find? false name = registry.find? false name' := by
  rw [find?_eq, find?_eq]
  exact congrArg (Option.map Prod.snd) (List.find?_congr fun entry _ => sameName_congr rfl same)

/-- Blocks that differ only in spelling open levels that are alike. -/
theorem Level.alike_of_declared {functions functions' : List FunctionDef}
    (paired : List.Forall₂ FunctionDef.Paired functions functions')
    (apart : SpelledAlike false functions) (apart' : SpelledAlike false functions') :
    (Level.empty.defineScripts functions).Alike (Level.empty.defineScripts functions') where
  natives := by rw [natives_defineScripts]; rfl
  natives' := by rw [natives_defineScripts]; rfl
  scripts same := by
    rw [find?_declared apart, find?_declared apart']
    exact find?_of_forall₂ (fun both => sameName_congr both.respelled.name same)
      (List.forall₂_reverse_iff.2 paired)

/-- A level whose functions are scripts is alike itself. -/
theorem Level.alike_self {level : Level} (natives : level.natives.entries = [])
    (apart : ∀ entry ∈ level.scripts.entries, entry.2.body.Apart) : level.Alike level where
  natives := natives
  natives' := natives
  scripts {name name'} same := by
    rw [level.scripts.find?_congr same, Registry.find?_eq]
    cases first : level.scripts.entries.find? fun entry => sameName false entry.1 name' with
    | none => exact .none
    | some entry =>
      have among := apart entry (List.mem_of_find?_eq_some first)
      exact .some ⟨entry.2.respelled_self, among, among⟩

/-- Scopes that are alike level by level. -/
inductive Scope.Alike : Scope → Scope → Prop
  | root {level level' : Level} (levels : level.Alike level') :
      Scope.Alike (.root level) (.root level')
  | child {level level' : Level} {outer outer' : Scope} (levels : level.Alike level')
      (around : Scope.Alike outer outer') :
      Scope.Alike (.child level outer) (.child level' outer')

theorem Scope.alike_self {scope : Scope} (apart : scope.Apart) : scope.Alike scope := by
  induction scope with
  | root level =>
    obtain ⟨natives, scripts⟩ := apart _ (Scope.mem_levels_self _)
    exact .root (Level.alike_self natives scripts)
  | child level outer around =>
    obtain ⟨natives, scripts⟩ := apart _ (Scope.mem_levels_self _)
    exact .child (Level.alike_self natives scripts)
      (around fun inner among => apart inner (List.mem_cons_of_mem _ among))

theorem Block.Respelled.paired {block block' : Block} (respelled : block.Respelled block')
    (apart : block.Apart) (apart' : block'.Apart) :
    List.Forall₂ FunctionDef.Paired block.functions block'.functions := by
  cases respelled with
  | mk declared _ =>
    refine List.forall₂_iff_get.2 ⟨declared.length_eq, fun i first second => ?_⟩
    exact ⟨declared.get first second, apart.function (List.get_mem _ _),
      apart'.function (List.get_mem _ _)⟩

/-- Entering blocks that differ only in spelling keeps scopes alike. -/
theorem Scope.Alike.enter {scope scope' : Scope} (alike : scope.Alike scope') {block block' : Block}
    (respelled : block.Respelled block') (apart : block.Apart) (apart' : block'.Apart) :
    (scope.enter block.functions).Alike (scope'.enter block'.functions) := by
  have paired := respelled.paired apart apart'
  have levels := Level.alike_of_declared paired (apart _ block.mem_nested_self)
    (apart' _ block'.mem_nested_self)
  unfold Scope.enter
  generalize block.functions = functions at paired levels ⊢
  generalize block'.functions = functions' at paired levels ⊢
  cases paired with
  | nil => exact alike
  | cons _ _ => exact .child levels alike

namespace Store

/-- Two tidy stores that hold the same values under the same names, spelling aside. -/
structure SameValues (store store' : Store) : Prop where
  tidy : store.Tidy
  tidy' : store'.Tidy
  values : ∀ name, store.entries.find? false name = store'.entries.find? false name

end Store

/-- Two scripts that differ only in the spelling of names, run where case does not count. -/
def Simulation.respelling (settings : Settings) (traced : Bool) : Simulation where
  settings := { settings with caseSensitive := false }
  traced := traced
  like _ _ := .respelled
  Shared name name' := Text.lower name = Text.lower name'
  Stores := Store.SameValues
  Error error error' := error.code = error'.code
  Places := Scope.Alike
  Blocks _ place place' block block' :=
    place.Alike place' ∧ block.Respelled block' ∧ block.Apart ∧ block'.Apart

namespace Simulation

theorem respelling_resolve {settings : Settings} {traced : Bool} {place place' : Scope}
    (places : place.Alike place') {count : Nat} {name name' : String}
    (same : Text.lower name = Text.lower name') :
    (respelling settings traced).Found count (place.resolve? false name)
      (place'.resolve? false name') := by
  have here {scope scope' : Scope} (alike : scope.Alike scope')
      (levels : scope.level.Alike scope'.level) :
      (respelling settings traced).Found count (scope.resolveHere? false name)
        (scope'.resolveHere? false name') := by
    have none (level : Level) (natives : level.natives.entries = []) (name : String) :
        level.natives.find? false name = none := by
      rw [Registry.find?_eq, natives]
      rfl
    unfold Scope.resolveHere?
    rw [none _ levels.natives, none _ levels.natives']
    have found := levels.scripts same
    generalize scope.level.scripts.find? false name = first at found ⊢
    generalize scope'.level.scripts.find? false name' = second at found ⊢
    cases found with
    | none => exact .none
    | some both =>
      exact .script both.respelled.name both.respelled.frame
        ⟨alike, both.respelled.body, both.apart, both.apart'⟩
  induction places with
  | root levels => exact here (.root levels) levels
  | @child level level' outer outer' levels around outward =>
    have inner := here (.child levels around) levels
    unfold Scope.resolve?
    generalize (Scope.child level outer).resolveHere? false name = first at inner ⊢
    generalize (Scope.child level' outer').resolveHere? false name' = second at inner ⊢
    cases inner with
    | none => exact outward
    | script named frames bodies => exact .script named frames bodies

theorem respelling_kept (settings : Settings) (traced : Bool) :
    (respelling settings traced).Kept where
  sameError _ := rfl
  literal values := values
  alike names := names
  shared names := .inr names
  unwritable _ := rfl
  unresolved _ := rfl
  slot {store store'} stores {name name'} same := by
    change store.slot? false name = store'.slot? false name'
    rw [stores.tidy.slot?, stores.tidy'.slot?, stores.values,
      store'.entries.find?_congr same]
  change {store store'} stores {name name'} same change := by
    refine ⟨stores.tidy.change name change, stores.tidy'.change name' change, fun other => ?_⟩
    change (store.change false name change).entries.find? false other =
      (store'.change false name' change).entries.find? false other
    rw [stores.tidy.find?_change, stores.tidy'.find?_change, stores.values, stores.values other,
      store'.entries.find?_congr same, show Text.lower name = Text.lower name' from same]
  enter := by
    rintro filled place place' block block' ⟨places, respelled, apart, apart'⟩
    refine ⟨places.enter respelled apart apart', ?_⟩
    cases respelled with
    | mk _ same => exact same
  resolve places _ _ _ names := respelling_resolve places names

end Simulation

namespace Program

/-- Where case does not count, the spelling of names is irrelevant. Two scripts that differ only in
the spelling of variables, parameters and functions, run from one tidy store, end with the same
value or with errors of one code, and leave the same values under the same names, spelling aside. -/
theorem spelling_irrelevant (program program' : Program)
    (respelled : program.body.Respelled program'.body) (apart : program.body.Apart)
    (apart' : program'.body.Apart) (settings : Settings)
    (insensitive : settings.caseSensitive = false) (traced : Bool) (scope : Scope)
    (scripts : scope.Apart) (store : Store) (tidy : store.Tidy) (fuel : Nat) :
    let outcome := program.runWith fuel ⟨settings, traced, Scope.lookup⟩ scope (.root store)
    let outcome' := program'.runWith fuel ⟨settings, traced, Scope.lookup⟩ scope (.root store)
    EndsAlike (fun error error' => error.code = error'.code) outcome.result outcome'.result ∧
      outcome.names.store.SameValues outcome'.names.store := by
  have folding : { settings with caseSensitive := false } = settings := by rw [← insensitive]
  have bodies : (Simulation.respelling settings traced).Blocks [] scope scope program.body
      program'.body :=
    ⟨Scope.alike_self scripts, respelled, apart, apart'⟩
  have ran := (Simulation.respelling_kept settings traced).program bodies fuel
    ⟨tidy, tidy, fun _ => rfl⟩
  dsimp only [Simulation.respelling, Simulation.context] at ran
  rwa [folding] at ran

/-- A script that writes what a function makes of its parameter, each name in a spelling of its
own. -/
def echoing (declared called param used target : String) : Program :=
  ⟨"", ⟨[⟨declared, [param], ⟨[], [
      .expression (.assign ⟨called, none, false⟩ (.variable ⟨used, none, false⟩))]⟩⟩],
    [.expression (.assign ⟨target, none, false⟩ (.call called [.literal (.boolean true)]))]⟩⟩

/-- The script in two spellings writes the one variable of the store that both mean. -/
theorem spelling_irrelevant_echo :
    let settings : Settings := { Settings.standard 0 with caseSensitive := false }
    let store : Store := .standard ((Variables.empty false).set "Total" .null)
    let outcome := (echoing "Twice" "twice" "x" "X" "TOTAL").runWith 40
      ⟨settings, false, Scope.lookup⟩ .empty (.root store)
    let outcome' := (echoing "TWICE" "tWice" "X" "X" "total").runWith 40
      ⟨settings, false, Scope.lookup⟩ .empty (.root store)
    outcome.names.store.SameValues outcome'.names.store ∧
      (outcome'.names.store.entries.find? false "ToTaL").any Value.isTrue = true := by
  intro settings store outcome outcome'
  have same (a b : String) (equal : (Text.lower a == Text.lower b) = true) :
      Text.lower a = Text.lower b :=
    beq_iff_eq.1 equal
  have respelled : (echoing "Twice" "twice" "x" "X" "TOTAL").body.Respelled
      (echoing "TWICE" "tWice" "X" "X" "total").body :=
    .mk (.cons (.mk (same _ _ (by decide +kernel)) (by decide +kernel)
        (.mk .nil (.cons (.expression (.assign (.mk (same _ _ (by decide +kernel)) .none)
          (.variable (.mk rfl .none)))) .nil))) .nil)
      (.cons (.expression (.assign (.mk (same _ _ (by decide +kernel)) .none)
        (.call (same _ _ (by decide +kernel)) (.cons (.literal rfl) .nil)))) .nil)
  have single (declared called param used target : String) :
      (echoing declared called param used target).body.Apart := by
    intro inner within first among second member _
    rcases Block.mem_nested_iff.1 within with rfl | ⟨function, outer, deeper⟩
    · rw [List.mem_singleton.1 among, List.mem_singleton.1 member]
    · rw [List.mem_singleton.1 outer] at deeper
      rcases Block.mem_nested_iff.1 deeper with rfl | ⟨_, none, _⟩
      · cases among
      · cases none
  have scripts : Scope.empty.Apart := by
    intro inner among
    rw [List.mem_singleton.1 among]
    exact ⟨rfl, fun _ none => by cases none⟩
  have tidy : store.Tidy := by
    refine ⟨rfl, fun name among other member _ => ?_, fun folds => by cases folds⟩
    rw [List.mem_singleton.1 among, List.mem_singleton.1 member]
  have ran := (spelling_irrelevant _ _ respelled (single _ _ _ _ _) (single _ _ _ _ _) settings rfl
    false .empty scripts store tidy 40).2
  refine ⟨ran, ?_⟩
  rw [← ran.values]
  decide +kernel

end Program
end RuleScript
