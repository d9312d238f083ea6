import RuleScript.Proofs.Run.Relation
import RuleScript.Proofs.Scope.Declarations

/-!
Functions are found by the text. Where a call stands in the source fixes what it calls: the last
declaration of the name in the nearest block of declarations around the call, and failing that
what the host has under the name. A place (`Place`) holds just this much of the text around a call.
A run that is told at each call what the text says goes as the run that carries scopes along.
-/
namespace RuleScript

/-- A place in a source: the declarations of the blocks around it, the innermost first, and the
levels of the host that the outermost of these blocks stands on. -/
structure Place where
  blocks : List (List FunctionDef)
  host : Scope

/-- A function that was found, with its home seen another way. -/
def Resolved.map {σ τ : Type} (view : σ → τ) : Resolved σ → Resolved τ
  | .script function home => .script function (view home)
  | .native function => .native function

namespace Place

/-- The place inside a block that declares some functions. -/
def inside (place : Place) (functions : List FunctionDef) : Place :=
  ⟨functions :: place.blocks, place.host⟩

/-- The function that one level of the host has under a name, a script function before a native
one. -/
def onLevel? (caseSensitive : Bool) (name : String) (scope : Scope) : Option (Resolved Place) :=
  match scope.level.scripts.entries.find? fun entry => sameName caseSensitive entry.1 name with
  | some entry => some (.script entry.2 ⟨[], scope⟩)
  | none =>
    (scope.level.natives.entries.find? fun entry => sameName caseSensitive entry.1 name).map
      fun entry => .native entry.2

/-- The search outward through blocks of declarations and then through the levels of the host. -/
def searchFrom? (caseSensitive : Bool) (name : String) (host : Scope) :
    List (List FunctionDef) → Option (Resolved Place)
  | [] => host.levels.findSome? (onLevel? caseSensitive name)
  | functions :: outer =>
    match declared? caseSensitive name functions with
    | some function => some (.script function ⟨functions :: outer, host⟩)
    | none => searchFrom? caseSensitive name host outer

/-- The function that a name means at a place. -/
def search? (place : Place) (caseSensitive : Bool) (name : String) : Option (Resolved Place) :=
  searchFrom? caseSensitive name place.host place.blocks

/-- The text tells where functions are found. -/
def lookup : Lookup Place :=
  ⟨inside, fun caseSensitive name place => place.search? caseSensitive name⟩

/-- The scope that a run has at a place. -/
def scope (place : Place) : Scope :=
  place.blocks.foldr (fun functions scope => scope.enter functions) place.host

end Place

/-- The blocks of the source of a script and of the script functions of its host, with the places
where they stand. A function of the host stands on the level where it is registered. -/
inductive Stands (program : Program) (host : Scope) : Place → Block → Prop
  | main : Stands program host ⟨[], host⟩ program.body
  | declared {place : Place} {block : Block} {function : FunctionDef}
      (around : Stands program host place block) (among : function ∈ block.functions) :
      Stands program host (place.inside block.functions) function.body
  | registered {scope : Scope} {entry : String × FunctionDef} (level : scope ∈ host.levels)
      (among : entry ∈ scope.level.scripts.entries) :
      Stands program host ⟨[], scope⟩ entry.2.body

/-- The lookup answers as the text says where a call stands in the source. Elsewhere it may give
any answer. -/
structure Lookup.Lexical (lookup : Lookup Place) (caseSensitive : Bool) (program : Program)
    (host : Scope) : Prop where
  enter {place : Place} {block : Block} (stands : Stands program host place block) :
    lookup.enter place block.functions = place.inside block.functions
  resolve {place : Place} {block : Block} (stands : Stands program host place block)
    {name : String} (called : .call name ∈ mentionsOfStatements block.statements) :
    lookup.resolve? caseSensitive name (place.inside block.functions) =
      (place.inside block.functions).search? caseSensitive name

theorem Place.lookup_lexical (caseSensitive : Bool) (program : Program) (host : Scope) :
    Place.lookup.Lexical caseSensitive program host :=
  ⟨fun _ => rfl, fun _ _ _ => rfl⟩

namespace Stands

variable {program : Program} {host : Scope} {place : Place} {block : Block}

theorem host_mem_levels (stands : Stands program host place block) :
    place.host ∈ host.levels := by
  induction stands with
  | main => exact host.mem_levels_self
  | declared _ _ around => exact around
  | registered level _ => exact level

/-- Each block of declarations around a place is that of a block that stands there. -/
theorem enclosing (stands : Stands program host place block) {functions : List FunctionDef}
    {outer : List (List FunctionDef)} (around : functions :: outer <:+ place.blocks) :
    ∃ enclosing, enclosing.functions = functions ∧
      Stands program host ⟨outer, place.host⟩ enclosing := by
  induction stands with
  | main => cases List.suffix_nil.1 around
  | registered => cases List.suffix_nil.1 around
  | declared stands _ found =>
    rcases List.suffix_cons_iff.1 around with same | further
    · cases same
      exact ⟨_, rfl, stands⟩
    · exact found further

theorem enclosing_inside (stands : Stands program host place block) {functions : List FunctionDef}
    {outer : List (List FunctionDef)}
    (around : functions :: outer <:+ (place.inside block.functions).blocks) :
    ∃ enclosing, enclosing.functions = functions ∧
      Stands program host ⟨outer, place.host⟩ enclosing := by
  rcases List.suffix_cons_iff.1 around with same | further
  · cases same
    exact ⟨block, rfl, stands⟩
  · exact stands.enclosing further

/-- The home of a script function that is found is where its body stands. -/
theorem of_search {caseSensitive : Bool} {name : String} {function : FunctionDef} {home : Place}
    {start : Scope} (level : start ∈ host.levels) {blocks : List (List FunctionDef)}
    (enclosed : ∀ functions outer, functions :: outer <:+ blocks →
      ∃ enclosing, enclosing.functions = functions ∧ Stands program host ⟨outer, start⟩ enclosing)
    (found : Place.searchFrom? caseSensitive name start blocks = some (.script function home)) :
    Stands program host home function.body := by
  induction blocks with
  | nil =>
    obtain ⟨scope, among, here⟩ := List.exists_of_findSome?_eq_some found
    unfold Place.onLevel? at here
    split at here
    · next entry first =>
      cases here
      exact .registered (Scope.mem_levels_trans among level) (List.mem_of_find?_eq_some first)
    · obtain ⟨entry, -, native⟩ := Option.map_eq_some_iff.1 here
      cases native
  | cons functions outer further =>
    unfold Place.searchFrom? at found
    split at found
    · next last declared =>
      cases found
      obtain ⟨enclosing, rfl, stands⟩ := enclosed functions outer List.suffix_rfl
      exact .declared stands (List.mem_reverse.1 (List.mem_of_find?_eq_some declared))
    · exact further (fun inner rest around => enclosed inner rest
        (around.trans (List.suffix_cons functions outer))) found

theorem of_search_inside (stands : Stands program host place block) {caseSensitive : Bool}
    {name : String} {function : FunctionDef} {home : Place}
    (found : (place.inside block.functions).search? caseSensitive name =
      some (.script function home)) : Stands program host home function.body :=
  of_search stands.host_mem_levels (fun _ _ around => stands.enclosing_inside around) found

end Stands

namespace Place

theorem resolveHere?_eq (scope : Scope) (caseSensitive : Bool) (name : String) :
    scope.resolveHere? caseSensitive name =
      (onLevel? caseSensitive name scope).map (Resolved.map Place.scope) := by
  unfold Scope.resolveHere? onLevel?
  rw [Registry.find?_eq, Registry.find?_eq]
  cases scope.level.scripts.entries.find? fun entry => sameName caseSensitive entry.1 name with
  | some entry => rfl
  | none =>
    cases scope.level.natives.entries.find? fun entry => sameName caseSensitive entry.1 name with
    | some entry => rfl
    | none => rfl

/-- On the levels of the host a scope finds what the search finds. -/
theorem resolve?_levels (host : Scope) (caseSensitive : Bool) (name : String) :
    host.resolve? caseSensitive name =
      (host.levels.findSome? (onLevel? caseSensitive name)).map (Resolved.map Place.scope) := by
  induction host with
  | root level =>
    unfold Scope.resolve? Scope.levels
    rw [resolveHere?_eq, List.findSome?_cons]
    cases onLevel? caseSensitive name (.root level) with
    | some found => rfl
    | none => rfl
  | child level outer further =>
    unfold Scope.resolve? Scope.levels
    rw [resolveHere?_eq, List.findSome?_cons]
    cases onLevel? caseSensitive name (.child level outer) with
    | some found => rfl
    | none => exact further

/-- The scope that a run has at a place finds what the text says. -/
theorem resolve?_scope {caseSensitive : Bool} (name : String) (host : Scope)
    {blocks : List (List FunctionDef)}
    (alike : ∀ functions ∈ blocks, SpelledAlike caseSensitive functions) :
    (Place.scope ⟨blocks, host⟩).resolve? caseSensitive name =
      (searchFrom? caseSensitive name host blocks).map (Resolved.map Place.scope) := by
  induction blocks with
  | nil => exact resolve?_levels host caseSensitive name
  | cons functions outer further =>
    have outward := further fun inner among => alike inner (List.mem_cons_of_mem _ among)
    unfold searchFrom?
    cases functions with
    | nil => exact outward
    | cons first rest =>
      have here : (Level.empty.defineScripts (first :: rest)).scripts.find? caseSensitive name =
          declared? caseSensitive name (first :: rest) :=
        Level.find?_declared (alike _ List.mem_cons_self) name
      have opened : Place.scope ⟨(first :: rest) :: outer, host⟩ =
          .child (Level.empty.defineScripts (first :: rest)) (Place.scope ⟨outer, host⟩) := rfl
      have noNative : Level.empty.natives.find? caseSensitive name = none := by
        rw [Registry.find?_eq]
        rfl
      rw [opened]
      unfold Scope.resolve? Scope.resolveHere?
      simp only [Scope.level, here, Level.natives_defineScripts, noNative]
      cases declared? caseSensitive name (first :: rest) with
      | some function => simp only [Option.map_some, Resolved.map, opened]
      | none => exact outward

end Place

/-- A script run by the text and run with scopes. -/
def Comparison.ofText (settings : Settings) (traced : Bool) (lookup : Lookup Place)
    (program : Program) (host : Scope) : Comparison Place Scope where
  settings := settings
  first := (traced, lookup)
  second := (traced, Scope.lookup)
  slack := 0
  Alike place scope block := Stands program host place block ∧ scope = place.scope
  Related body body' := body = body'

section Text

variable {settings : Settings} {program : Program} {host : Scope}

/-- Inside a block of the source, scopes find what the text says. -/
theorem Stands.resolve? {place : Place} {block : Block}
    (alike : ∀ place block, Stands program host place block →
      SpelledAlike settings.caseSensitive block.functions)
    (stands : Stands program host place block) (name : String) :
    (place.inside block.functions).scope.resolve? settings.caseSensitive name =
      ((place.inside block.functions).search? settings.caseSensitive name).map
        (Resolved.map Place.scope) := by
  refine Place.resolve?_scope name place.host fun functions among => ?_
  obtain ⟨before, after, split⟩ := List.append_of_mem among
  obtain ⟨enclosing, rfl, around⟩ := stands.enclosing_inside ⟨before, split.symm⟩
  exact alike _ enclosing around

/-- Inside a block of the source, the text and the scopes find the same functions. -/
theorem Comparison.ofText_finds {lookup : Lookup Place} (traced : Bool)
    (lexical : lookup.Lexical settings.caseSensitive program host)
    (alike : ∀ place block, Stands program host place block →
      SpelledAlike settings.caseSensitive block.functions)
    {place : Place} {block : Block} (stands : Stands program host place block) :
    (Comparison.ofText settings traced lookup program host).Finds
      (lookup.enter place block.functions) (place.scope.enter block.functions)
      (mentionsOfStatements block.statements) := by
  intro name called
  have textual : lookup.resolve? settings.caseSensitive name
      (lookup.enter place block.functions) =
        (place.inside block.functions).search? settings.caseSensitive name := by
    rw [lexical.enter stands, lexical.resolve stands called]
  have carried : (place.scope.enter block.functions).resolve? settings.caseSensitive name =
      ((place.inside block.functions).search? settings.caseSensitive name).map
        (Resolved.map Place.scope) :=
    stands.resolve? alike name
  dsimp only [Comparison.ofText, Scope.lookup]
  rw [textual, carried]
  cases found : (place.inside block.functions).search? settings.caseSensitive name with
  | none => exact .none
  | some resolved =>
    cases resolved with
    | script function home => exact .script ⟨stands.of_search_inside found, rfl⟩
    | native function => exact .native

theorem Comparison.ofText_kept {lookup : Lookup Place} (traced : Bool)
    (lexical : lookup.Lexical settings.caseSensitive program host)
    (alike : ∀ place block, Stands program host place block →
      SpelledAlike settings.caseSensitive block.functions) :
    (Comparison.ofText settings traced lookup program host).Kept where
  value _ := rfl
  error _ := rfl
  bind := by
    rintro _ _ body _ next next' rfl nexts
    exact congrArg (body >>= ·) (funext nexts)
  exhausted other same := (same rfl).symm
  read _ _ := rfl
  write _ _ _ := rfl
  ownValue _ := rfl
  native _ := rfl
  note _ := rfl
  reportSource _ := rfl
  reportShown _ := rfl
  observe := by
    rintro node _ _ rfl
    rfl
  inFrame := by
    rintro frame _ _ rfl
    rfl
  enter := by
    rintro place _ block ⟨stands, rfl⟩
    exact Comparison.ofText_finds traced lexical alike stands

end Text

namespace Program

/-- Functions are scoped lexically. A call that stands in the source calls the function that the
search from its place finds, and raises the error for an unknown function exactly when the search
finds nothing. A script function that is found runs at the place where its body stands. So a run
takes the same course when each call in the source is answered by this search, whatever is answered
elsewhere. -/
theorem calls_lexical (program : Program) (host : Scope) (settings : Settings) (traced : Bool)
    (alike : ∀ place block, Stands program host place block →
      SpelledAlike settings.caseSensitive block.functions) :
    let context : Context Scope := ⟨settings, traced, Scope.lookup⟩
    (∀ place block, Stands program host place block → ∀ name args fuel,
      Machine.evalNode context (fuel + 1) (place.inside block.functions).scope (.call name args) =
        match (place.inside block.functions).search? settings.caseSensitive name with
        | none => Run.fail (.unresolvedFunction name)
        | some found => do
          let values ← Machine.evalArguments context fuel (place.inside block.functions).scope args
          Machine.callFunction context fuel (found.map Place.scope) values) ∧
    (∀ place block, Stands program host place block → ∀ name function home,
      (place.inside block.functions).search? settings.caseSensitive name =
        some (.script function home) → Stands program host home function.body) ∧
    (∀ lookup : Lookup Place, lookup.Lexical settings.caseSensitive program host →
      ∀ fuel names, program.runWith fuel context host names =
        program.runWith fuel ⟨settings, traced, lookup⟩ ⟨[], host⟩ names) := by
  intro context
  refine ⟨fun place block stands name args fuel => ?_,
    fun place block stands name function home found => stands.of_search_inside found,
    fun lookup lexical fuel names => ?_⟩
  · have carried := stands.resolve? alike name
    unfold Machine.evalNode
    dsimp only [context, Scope.lookup]
    rw [carried]
    cases (place.inside block.functions).search? settings.caseSensitive name with
    | none => rfl
    | some found => rfl
  · have same : program.steps fuel ⟨settings, traced, lookup⟩ ⟨[], host⟩ =
        program.steps fuel context host :=
      (Comparison.ofText_kept traced lexical alike).program fuel program ⟨.main, rfl⟩
    unfold runWith
    rw [same]

/-- A script in which `h` declares its own `f` and calls `g`, which calls `f`. -/
def shadowing : Program :=
  ⟨"", ⟨[⟨"f", [], returning "f" (.literal (.text "outer"))⟩,
      ⟨"g", [], returning "g" (.call "f" [])⟩,
      ⟨"h", [], ⟨[⟨"f", [], returning "f" (.literal (.text "inner"))⟩],
        (returning "h" (.call "g" [])).statements⟩⟩],
    [.expression (.call "h" [])]⟩⟩
where
  returning (name : String) (value : Expr) : Block :=
    ⟨[], [.expression (.assign ⟨name, none, false⟩ value)]⟩

/-- The call of `f` in the body of `g` means the outer one, also when `g` is called where another
one is declared. -/
theorem calls_lexical_shadowed :
    (∀ place block, Stands shadowing .empty place block → SpelledAlike true block.functions) ∧
      shadowing.runWith 40 ⟨.standard 0, false, Place.lookup⟩ ⟨[], .empty⟩
          (.root (.standard (.empty false))) =
        ⟨.ok (.text "outer"), .root (.standard (.empty false)), []⟩ := by
  have alike : ∀ place block, Stands shadowing .empty place block →
      SpelledAlike true block.functions :=
    fun _ block _ => spelledAlike_caseSensitive block.functions
  have same := (calls_lexical shadowing .empty (.standard 0) false alike).2.2 Place.lookup
    (Place.lookup_lexical true shadowing .empty) 40 (.root (.standard (.empty false)))
  have outer : shadowing.runWith 40 ⟨.standard 0, false, Scope.lookup⟩ .empty
      (.root (.standard (.empty false))) =
        ⟨.ok (.text "outer"), .root (.standard (.empty false)), []⟩ := rfl
  exact ⟨alike, same.symm.trans outer⟩

end Program
end RuleScript
