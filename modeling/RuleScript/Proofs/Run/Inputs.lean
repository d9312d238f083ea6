import RuleScript.Proofs.Namespace.Listing
import RuleScript.Proofs.Run.Footprint
import RuleScript.Proofs.Run.Lexical
import RuleScript.Proofs.Run.Simulation
import RuleScript.Proofs.Script.Calls

/-!
What a run can depend on. The references of a script leave out the parameters of its functions. A
call with fewer arguments than parameters, though, leaves the last parameters without a value, and
these are then looked up in the store. With the parameters that some call in the source leaves open
(`Program.openParameters`) the references are all that a run reads: stores that agree on these names
lead to the same result, and agree on them afterwards.

Stores agree name by name, whatever order they list their entries in. So where case does not count
and a store lists names as they were written, it must have each of the names in one spelling only
(`Store.SpelledOnce`): of two spellings, the one that comes first would be meant.
-/
namespace RuleScript

namespace Store

/-- An entry is one that a name can mean, when the script or the store does not tell case apart. -/
def means (caseSensitive : Bool) (store : Store) (name entry : String) : Bool :=
  sameName (caseSensitive && !store.folds) entry name

/-- The stores are of one kind, and have the same under each entry that one of the names can
mean. -/
structure AgreeOn (caseSensitive : Bool) (names : List String) (store store' : Store) : Prop where
  kind : store.SameKind store'
  entries : ∀ name ∈ names, ∀ entry, store.means caseSensitive name entry = true →
    store.entries.get? entry = store'.entries.get? entry

/-- Where case does not count and the store lists names as they were written, it has each of the
names in at most one spelling. -/
def SpelledOnce (caseSensitive : Bool) (names : List String) (store : Store) : Prop :=
  caseSensitive = false → store.lists = true → store.folds = false →
    ∀ name ∈ names, store.entries.SpelledOnce name

/-- A spelling of a name is kept under a key that the name can mean. -/
theorem means_key {caseSensitive : Bool} (store : Store) {spelling name : String}
    (alike : foldName caseSensitive spelling = foldName caseSensitive name) :
    store.means caseSensitive (foldName caseSensitive name) (store.key spelling) = true := by
  unfold means key
  rw [sameName_iff]
  cases caseSensitive with
  | true =>
    rw [foldName_true, foldName_true] at alike
    rw [alike, foldName_true, Bool.true_and, foldName_foldName]
  | false =>
    rw [foldName_false, foldName_false] at alike
    rw [Bool.false_and, foldName_false, foldName_false, foldName_false, Text.lower_lower, ← alike]
    cases store.folds with
    | true => exact Text.lower_lower spelling
    | false => rfl

/-- Where case does not count, a name can mean the entries that it differs from in case only. -/
theorem means_false {store : Store} {name entry : String}
    (alike : Text.lower entry = Text.lower name) : store.means false name entry = true := by
  unfold means
  rw [sameName_iff, Bool.false_and, foldName_false, foldName_false, alike]

/-- One of the names is resolved to the spelling that the store has already. -/
theorem SpelledOnce.resolveName {names : List String} {store : Store}
    (once : store.SpelledOnce false names) (lists : store.lists = true)
    (exact : store.folds = false) {entry name : String} (among : entry ∈ store.entries.names)
    (known : Text.lower name ∈ names) (alike : Text.lower entry = Text.lower name) :
    (Namespace.root store).resolveName false name = entry := by
  have single : ∀ other ∈ store.entries.names, Text.lower other = Text.lower name →
      other = entry := by
    intro other member same
    rw [← Text.lower_lower name] at alike same
    exact once rfl lists exact _ known other member entry among same alike
  have unfolded : store.folds = true →
      ∀ name ∈ store.entries.names, Text.lower name = name := fun folds =>
    absurd folds (Bool.eq_false_iff.1 exact)
  have resolved := key_resolveName_of_single lists unfolded among alike single
  rwa [key_of_exact exact] at resolved

/-- Writing one of the names gives it no second spelling. -/
theorem SpelledOnce.change {caseSensitive : Bool} {names : List String} {store : Store}
    (once : store.SpelledOnce caseSensitive names) {name : String}
    (known : foldName caseSensitive name ∈ names) (change : Option Value → Value) :
    (store.change caseSensitive name change).SpelledOnce caseSensitive names := by
  rintro rfl lists exact meant wanted entry among other member first second
  rw [Store.change, lists_alter] at lists
  rw [Store.change, folds_alter] at exact
  have written : ∀ entry ∈ store.entries.names,
      Text.lower entry = Text.lower (store.key ((Namespace.root store).resolveName false name)) →
        entry = store.key ((Namespace.root store).resolveName false name) := by
    intro entry among alike
    rw [lower_key_resolveName] at alike
    rw [key_of_exact exact, once.resolveName lists exact among known alike]
  rcases mem_names_alter.1 among with rfl | before <;>
    rcases mem_names_alter.1 member with rfl | before'
  · rfl
  · exact (written other before' (second.trans first.symm)).symm
  · exact written entry before (first.trans second.symm)
  · exact once rfl lists exact meant wanted entry before other before' first second

namespace AgreeOn

variable {caseSensitive : Bool} {names : List String} {store store' : Store}

/-- Where case does not count, both stores have the same spellings of each of the names. -/
theorem mem_names_iff (agree : AgreeOn false names store store') {entry name : String}
    (known : name ∈ names) (alike : Text.lower entry = Text.lower name) :
    entry ∈ store.entries.names ↔ entry ∈ store'.entries.names := by
  have same := agree.entries _ known entry (means_false alike)
  rw [← not_iff_not, ← Registry.get?_eq_none_iff, ← Registry.get?_eq_none_iff, same]

theorem spelledOnce (agree : AgreeOn caseSensitive names store store')
    (once : store.SpelledOnce caseSensitive names) : store'.SpelledOnce caseSensitive names := by
  rintro rfl lists exact name known entry among other member first second
  rw [← agree.kind.lists] at lists
  rw [← agree.kind.folds] at exact
  exact once rfl lists exact name known entry ((agree.mem_names_iff known first).2 among) other
    ((agree.mem_names_iff known second).2 member) first second

/-- Both stores keep a name under the same key. -/
theorem key_resolveName (agree : AgreeOn caseSensitive names store store')
    (once : store.SpelledOnce caseSensitive names) {name : String}
    (known : foldName caseSensitive name ∈ names) :
    store.key ((Namespace.root store).resolveName caseSensitive name) =
      store'.key ((Namespace.root store').resolveName caseSensitive name) := by
  cases caseSensitive with
  | true => exact agree.kind.key name
  | false =>
    rw [← agree.kind.key]
    cases folds : store.folds with
    | true =>
      -- a folding store has one key for all spellings
      have folded (spelling : String) : store.key spelling = Text.lower spelling := by
        rw [key, folds]
        rfl
      have same (store : Store) :
          Text.lower ((Namespace.root store).resolveName false name) = Text.lower name :=
        Namespace.foldName_resolveName _ false name
      rw [folded, folded, same, same]
    | false =>
      refine congrArg store.key ?_
      cases lists : store.lists with
      | false =>
        rw [resolveName_of_unlisted lists, resolveName_of_unlisted (agree.kind.lists ▸ lists)]
      | true =>
        have shared {entry : String} (alike : Text.lower entry = Text.lower name) :=
          agree.mem_names_iff known (alike.trans (Text.lower_lower name).symm)
        by_cases there : ∃ entry ∈ store.entries.names, Text.lower entry = Text.lower name
        · obtain ⟨entry, among, alike⟩ := there
          rw [once.resolveName lists folds among known alike,
            (agree.spelledOnce once).resolveName (agree.kind.lists ▸ lists)
              (agree.kind.folds ▸ folds) ((shared alike).1 among) known alike]
        · rw [resolveName_of_absent fun entry among alike => there ⟨entry, among, alike⟩,
            resolveName_of_absent fun entry among alike =>
              there ⟨entry, (shared alike).2 among, alike⟩]

theorem slot? (agree : AgreeOn caseSensitive names store store')
    (once : store.SpelledOnce caseSensitive names) {name : String}
    (known : foldName caseSensitive name ∈ names) :
    store.slot? caseSensitive name = store'.slot? caseSensitive name := by
  unfold Store.slot?
  rw [← agree.key_resolveName once known]
  exact agree.entries _ known _ (store.means_key (Namespace.foldName_resolveName _ _ _))

/-- A change that is made to both stores keeps them in agreement. -/
theorem change (agree : AgreeOn caseSensitive names store store')
    (once : store.SpelledOnce caseSensitive names) {name : String}
    (known : foldName caseSensitive name ∈ names) (change : Option Value → Value) :
    AgreeOn caseSensitive names (store.change caseSensitive name change)
      (store'.change caseSensitive name change) := by
  refine ⟨agree.kind.alter _ _ _ _, fun other among entry meant => ?_⟩
  have written : store.entries.get? (store.key ((Namespace.root store).resolveName _ name)) =
      store'.entries.get? (store.key ((Namespace.root store).resolveName _ name)) :=
    agree.entries _ known _ (store.means_key (Namespace.foldName_resolveName _ caseSensitive name))
  have before : store.entries.get? entry = store'.entries.get? entry := by
    refine agree.entries other among entry ?_
    rwa [means, Store.change, folds_alter] at meant
  unfold Store.change
  rw [entries_alter, entries_alter, ← agree.key_resolveName once known, Registry.get?_alter,
    Registry.get?_alter, written, before]

end AgreeOn
end Store

namespace FunctionDef

/-- The parameters that get no value in a call with some number of arguments, as they are looked
up. -/
def unfilledNames (caseSensitive : Bool) (count : Nat) (function : FunctionDef) : List String :=
  ((function.params.drop count).filter fun param => !(Text.trimChars param.toList).isEmpty).map
    (foldName caseSensitive)

/-- A call fills each of the function's own names, or leaves it open. -/
theorem filled_or_unfilled {caseSensitive : Bool} {function : FunctionDef} {name : String}
    (own : name ∈ function.ownNames caseSensitive) (count : Nat) :
    name ∈ function.filledNames caseSensitive count ∨
      name ∈ function.unfilledNames caseSensitive count := by
  rcases List.mem_append.1 own with param | itself
  · obtain ⟨spelled, present, rfl⟩ := List.mem_map.1 param
    obtain ⟨among, named⟩ := List.mem_filter.1 present
    rw [← List.take_append_drop count function.params, List.mem_append] at among
    rcases among with taken | dropped
    · exact .inl (List.mem_append_left _
        (List.mem_map_of_mem (List.mem_filter.2 ⟨taken, named⟩)))
    · exact .inr (List.mem_map_of_mem (List.mem_filter.2 ⟨dropped, named⟩))
  · exact .inl (List.mem_append_right _ itself)

end FunctionDef

/-- The parameters that a call at a place leaves without a value. -/
def Place.openParameters (place : Place) (caseSensitive : Bool) (name : String) (count : Nat) :
    List String :=
  match place.search? caseSensitive name with
  | some (.script function _) => function.unfilledNames caseSensitive count
  | _ => []

mutual

/-- The parameters that a call in the block, or in a function declared in it at any depth, leaves
without a value. The blocks around are given by their declarations, the innermost first. -/
def Block.openParameters (caseSensitive : Bool) (around : List (List FunctionDef)) :
    Block → List String
  | ⟨functions, statements⟩ =>
    (callSitesOfStatements statements).flatMap (fun site =>
      Place.openParameters ⟨functions :: around, .empty⟩ caseSensitive site.1 site.2) ++
      openParametersOfFunctions caseSensitive (functions :: around) functions

def FunctionDef.openParameters (caseSensitive : Bool) (around : List (List FunctionDef)) :
    FunctionDef → List String
  | ⟨_, _, body⟩ => body.openParameters caseSensitive around

def openParametersOfFunctions (caseSensitive : Bool) (around : List (List FunctionDef)) :
    List FunctionDef → List String
  | [] => []
  | function :: rest =>
    function.openParameters caseSensitive around ++
      openParametersOfFunctions caseSensitive around rest

end

namespace Program

/-- The parameters of a script's functions that some call in its source leaves without a value, as
they are looked up. -/
def openParameters (program : Program) (settings : Settings) : List String :=
  program.body.openParameters settings.caseSensitive []

/-- The variables that a run of a script can depend on. -/
def inputs (program : Program) (settings : Settings) : List String :=
  (program.references settings).variableNames ++ program.openParameters settings

/-- A call in the source of the script, where no host function is known, leaves a parameter of the
function that it calls without a value. -/
def LeavesOpen (program : Program) (caseSensitive : Bool) (param : String) : Prop :=
  ∃ place block name count function home, Stands program .empty place block ∧
    (name, count) ∈ callSitesOfStatements block.statements ∧
    (place.inside block.functions).search? caseSensitive name = some (.script function home) ∧
    param ∈ function.unfilledNames caseSensitive count

end Program

theorem mem_openParametersOfFunctions {caseSensitive : Bool} {around : List (List FunctionDef)}
    {functions : List FunctionDef} {param : String} :
    param ∈ openParametersOfFunctions caseSensitive around functions ↔
      ∃ function ∈ functions, param ∈ function.body.openParameters caseSensitive around := by
  induction functions with
  | nil => simp [openParametersOfFunctions]
  | cons function rest others =>
    obtain ⟨name, params, body⟩ := function
    simp [openParametersOfFunctions, FunctionDef.openParameters, others]

theorem Place.mem_openParameters {place : Place} {caseSensitive : Bool} {name param : String}
    {count : Nat} :
    param ∈ place.openParameters caseSensitive name count ↔
      ∃ function home, place.search? caseSensitive name = some (.script function home) ∧
        param ∈ function.unfilledNames caseSensitive count := by
  unfold openParameters
  split
  · next function home found =>
    rw [found]
    constructor
    · exact fun among => ⟨function, home, rfl, among⟩
    · rintro ⟨_, _, same, among⟩
      cases same
      exact among
  · next other =>
    constructor
    · intro among
      cases among
    · rintro ⟨function, home, found, -⟩
      exact absurd found (other function home)

namespace Stands

variable {program : Program} {place : Place} {block : Block} {caseSensitive : Bool}

/-- Without a host each block that stands in the source is one of the script. -/
theorem mem_nested (stands : Stands program .empty place block) :
    block ∈ program.body.nested ∧ place.host = .empty := by
  induction stands with
  | main => exact ⟨program.body.mem_nested_self, rfl⟩
  | declared _ among around => exact ⟨Block.body_mem_nested around.1 among, around.2⟩
  | registered level among =>
    rw [List.mem_singleton.1 level] at among
    cases among

/-- What a call finds is a function that some block of the script declares. -/
theorem declared_of_search (stands : Stands program .empty place block) {name : String}
    {resolved : Resolved Place}
    (found : (place.inside block.functions).search? caseSensitive name = some resolved) :
    ∃ function home, resolved = .script function home ∧
      ∃ enclosing ∈ program.body.nested, function ∈ enclosing.functions := by
  have among : ∀ blocks, Place.searchFrom? caseSensitive name .empty blocks = some resolved →
      ∃ function home, resolved = .script function home ∧
        ∃ functions ∈ blocks, function ∈ functions := by
    intro blocks found
    induction blocks with
    | nil => cases found
    | cons functions outer further =>
      unfold Place.searchFrom? at found
      split at found
      · next last declared =>
        cases found
        exact ⟨last, _, rfl, functions, List.mem_cons_self,
          List.mem_reverse.1 (List.mem_of_find?_eq_some declared)⟩
      · obtain ⟨function, home, script, inner, member, declared⟩ := further found
        exact ⟨function, home, script, inner, List.mem_cons_of_mem _ member, declared⟩
  obtain ⟨function, home, script, functions, member, declared⟩ :=
    among (block.functions :: place.blocks) (stands.mem_nested.2 ▸ found)
  obtain ⟨before, after, split⟩ := List.append_of_mem member
  obtain ⟨enclosing, rfl, around⟩ := stands.enclosing_inside ⟨before, split.symm⟩
  exact ⟨function, home, script, enclosing, around.mem_nested.1, declared⟩

/-- What a call in the block leaves open is open in the script. -/
theorem openParameters_subset (stands : Stands program .empty place block) :
    block.openParameters caseSensitive place.blocks ⊆
      program.body.openParameters caseSensitive [] := by
  induction stands with
  | main => exact List.Subset.refl _
  | @declared place block function _ among around =>
    refine List.Subset.trans (fun param unfilled => ?_) around
    obtain ⟨functions, statements⟩ := block
    exact List.mem_append_right _ (mem_openParametersOfFunctions.2 ⟨function, among, unfilled⟩)
  | registered level among =>
    rw [List.mem_singleton.1 level] at among
    cases among

end Stands

mutual

theorem Block.leavesOpen {program : Program} {caseSensitive : Bool} {param : String} :
    (block : Block) → (place : Place) → Stands program .empty place block →
      param ∈ block.openParameters caseSensitive place.blocks →
      program.LeavesOpen caseSensitive param
  | ⟨functions, statements⟩, place, stands, unfilled => by
    rcases List.mem_append.1 unfilled with here | deeper
    · obtain ⟨⟨name, count⟩, called, left⟩ := List.mem_flatMap.1 here
      rw [← stands.mem_nested.2] at left
      obtain ⟨function, home, found, among⟩ := Place.mem_openParameters.1 left
      exact ⟨place, _, name, count, function, home, stands, called, found, among⟩
    · exact leavesOpen_ofFunctions functions (place.inside functions)
        (fun function among => .declared stands among) deeper

theorem FunctionDef.leavesOpen {program : Program} {caseSensitive : Bool} {param : String} :
    (function : FunctionDef) → (place : Place) → Stands program .empty place function.body →
      param ∈ function.openParameters caseSensitive place.blocks →
      program.LeavesOpen caseSensitive param
  | ⟨_, _, body⟩, place, stands, unfilled => Block.leavesOpen body place stands unfilled

theorem leavesOpen_ofFunctions {program : Program} {caseSensitive : Bool} {param : String} :
    (functions : List FunctionDef) → (place : Place) →
      (∀ function ∈ functions, Stands program .empty place function.body) →
      param ∈ openParametersOfFunctions caseSensitive place.blocks functions →
      program.LeavesOpen caseSensitive param
  | [], _, _, unfilled => by cases unfilled
  | function :: rest, place, stand, unfilled => by
    rcases List.mem_append.1 unfilled with first | later
    · exact FunctionDef.leavesOpen function place (stand function List.mem_cons_self) first
    · exact leavesOpen_ofFunctions rest place
        (fun other among => stand other (List.mem_cons_of_mem _ among)) later

end

/-- The open parameters are just those that some call leaves open. -/
theorem Program.mem_openParameters {program : Program} {settings : Settings} {param : String} :
    param ∈ program.openParameters settings ↔
      program.LeavesOpen settings.caseSensitive param := by
  constructor
  · exact Block.leavesOpen program.body ⟨[], .empty⟩ .main
  · rintro ⟨place, block, name, count, function, home, stands, called, found, among⟩
    refine stands.openParameters_subset ?_
    have host := stands.mem_nested.2
    obtain ⟨functions, statements⟩ := block
    refine List.mem_append_left _ (List.mem_flatMap.2 ⟨(name, count), called, ?_⟩)
    refine Place.mem_openParameters.2 ⟨function, home, ?_, among⟩
    rw [← host]
    exact found

mutual

/-- The variables of a function declared anywhere in a block are variables of the block. -/
theorem Block.mem_variableNames {caseSensitive : Bool} {hidden : List String} {inner : Block}
    {function : FunctionDef} {name : String} (declared : function ∈ inner.functions)
    (among : name ∈ function.variableNames caseSensitive) :
    (block : Block) → inner ∈ block.nested → name ∈ block.variableNames caseSensitive hidden
  | ⟨functions, statements⟩, within => by
    refine List.mem_append_left _ ?_
    rcases List.mem_cons.1 within with rfl | deeper
    · exact mem_variableNamesOfFunctions declared among
    · exact variableNamesOfFunctions_of_nested declared among functions deeper

theorem FunctionDef.mem_variableNames {caseSensitive : Bool} {inner : Block}
    {function : FunctionDef} {name : String} (declared : function ∈ inner.functions)
    (among : name ∈ function.variableNames caseSensitive) :
    (outer : FunctionDef) → inner ∈ outer.nested → name ∈ outer.variableNames caseSensitive
  | ⟨_, _, body⟩, within => Block.mem_variableNames declared among body within

theorem variableNamesOfFunctions_of_nested {caseSensitive : Bool} {inner : Block}
    {function : FunctionDef} {name : String} (declared : function ∈ inner.functions)
    (among : name ∈ function.variableNames caseSensitive) :
    (functions : List FunctionDef) → inner ∈ nestedInFunctions functions →
      name ∈ variableNamesOfFunctions caseSensitive functions
  | [], within => by cases within
  | outer :: rest, within => by
    rcases List.mem_append.1 within with first | later
    · exact List.mem_append_left _ (FunctionDef.mem_variableNames declared among outer first)
    · exact List.mem_append_right _
        (variableNamesOfFunctions_of_nested declared among rest later)

theorem mem_variableNamesOfFunctions {caseSensitive : Bool} {functions : List FunctionDef}
    {function : FunctionDef} {name : String} (declared : function ∈ functions)
    (among : name ∈ function.variableNames caseSensitive) :
    name ∈ variableNamesOfFunctions caseSensitive functions := by
  induction functions with
  | nil => cases declared
  | cons first rest others =>
    rcases List.mem_cons.1 declared with rfl | later
    · exact List.mem_append_left _ among
    · exact List.mem_append_right _ (others later)

end

namespace Program

/-- What the body of a function mentions is filled by a call of the function in the source, or is
among the inputs. -/
theorem mention_in_function {program : Program} {settings : Settings} {place : Place}
    {block : Block} (stands : Stands program .empty place block) {name : String} {count : Nat}
    (called : (name, count) ∈ callSitesOfStatements block.statements) {function : FunctionDef}
    {home : Place}
    (found : (place.inside block.functions).search? settings.caseSensitive name =
      some (.script function home)) {mentioned : String}
    (among : .variable mentioned ∈ mentionsOfStatements function.body.statements) :
    foldName settings.caseSensitive mentioned ∈
        function.filledNames settings.caseSensitive count ∨
      foldName settings.caseSensitive mentioned ∈ program.inputs settings := by
  by_cases own : foldName settings.caseSensitive mentioned ∈
      function.ownNames settings.caseSensitive
  · refine (FunctionDef.filled_or_unfilled own count).imp id fun unfilled => ?_
    exact List.mem_append_right _ (mem_openParameters.2
      ⟨place, block, name, count, function, home, stands, called, found, unfilled⟩)
  · refine .inr (List.mem_append_left _ (mem_sortNames.2 ?_))
    obtain ⟨_, _, script, enclosing, within, declared⟩ := stands.declared_of_search found
    cases script
    refine Block.mem_variableNames declared ?_ program.body within
    obtain ⟨ownName, params, functions, statements⟩ := function
    exact List.mem_append_right _ (Mention.mem_variableNames.2 ⟨own, mentioned, among, rfl⟩)

end Program

/-- Names stand for themselves. Those of variables that are not filled are inputs, and those of
functions are called where the scope says. -/
def Likeness.onInputs (program : Program) (settings : Settings) (filled : List String)
    (scope : Scope) : Likeness where
  Literal value value' := value = value'
  Variable name name' := name = name' ∧
    (foldName settings.caseSensitive name ∈ filled ∨
      foldName settings.caseSensitive name ∈ program.inputs settings)
  Call count name name' := name = name' ∧
    ∃ place block, Stands program .empty place block ∧
      scope = (place.inside block.functions).scope ∧
      (name, count) ∈ callSitesOfStatements block.statements

/-- A script run on two stores that agree on its inputs. -/
def Simulation.onInputs (program : Program) (settings : Settings) (traced : Bool) :
    Simulation where
  settings := settings
  traced := traced
  like := .onInputs program settings
  Shared name name' := name = name' ∧
    foldName settings.caseSensitive name ∈ program.inputs settings
  Stores store store' :=
    store.AgreeOn settings.caseSensitive (program.inputs settings) store' ∧
      store.SpelledOnce settings.caseSensitive (program.inputs settings)
  Error error error' := error = error'
  Places scope scope' := scope = scope'
  Blocks filled scope scope' block block' := scope = scope' ∧ block = block' ∧
    StatementsLike (.onInputs program settings filled (scope.enter block.functions))
      block.statements block.statements

namespace Simulation

variable {program : Program} {settings : Settings}

theorem onInputs_isEq (filled : List String) (scope : Scope) :
    (Likeness.onInputs program settings filled scope).IsEq :=
  ⟨fun values => values, fun names => names.1, fun names => names.1⟩

/-- A block runs where it stands if each variable that it mentions is filled or an input. -/
theorem onInputs_block {traced : Bool} {place : Place} {block : Block}
    (stands : Stands program .empty place block) {filled : List String}
    (mentions : ∀ name, .variable name ∈ mentionsOfStatements block.statements →
      foldName settings.caseSensitive name ∈ filled ∨
        foldName settings.caseSensitive name ∈ program.inputs settings) :
    (onInputs program settings traced).Blocks filled place.scope place.scope block block :=
  ⟨rfl, rfl, statements_like_self (fun _ => rfl) block.statements
    ⟨fun name among => ⟨rfl, mentions name among⟩,
      fun _ _ among => ⟨rfl, place, block, stands, rfl, among⟩⟩⟩

/-- Both runs find the function that the text says, and a call with some number of arguments fills
what its body does not take from the inputs. -/
theorem onInputs_resolve
    (apart : ∀ block ∈ program.body.nested,
      SpelledAlike settings.caseSensitive block.functions)
    {traced : Bool} {filled : List String} {scope scope' : Scope} (same : scope = scope')
    {count : Nat} {name name' : String}
    (names : ((onInputs program settings traced).like filled scope).Call count name name') :
    (onInputs program settings traced).Found count
      (scope.resolve? settings.caseSensitive name)
      (scope'.resolve? settings.caseSensitive name') := by
  subst same
  obtain ⟨rfl, place, block, stands, rfl, called⟩ := names
  rw [stands.resolve? (fun _ inner stands => apart inner stands.mem_nested.1) name]
  cases found : (place.inside block.functions).search? settings.caseSensitive name with
  | none => exact .none
  | some resolved =>
    obtain ⟨function, home, rfl, -⟩ := stands.declared_of_search found
    exact .script rfl (fun _ => rfl) (onInputs_block (stands.of_search_inside found)
      fun _ among => Program.mention_in_function stands called found among)

theorem onInputs_kept
    (apart : ∀ block ∈ program.body.nested,
      SpelledAlike settings.caseSensitive block.functions) (traced : Bool) :
    (onInputs program settings traced).Kept where
  sameError _ := rfl
  literal values := values
  alike := by
    rintro filled place name _ ⟨rfl, _⟩
    rfl
  shared := by
    rintro filled place name _ ⟨rfl, known⟩
    exact known.imp id fun input => ⟨rfl, input⟩
  unwritable targets := congrArg unwritable (targets.eq (onInputs_isEq _ _))
  unresolved names := congrArg EvalError.unresolvedFunction names.1
  slot := by
    rintro store store' ⟨agree, once⟩ name _ ⟨rfl, input⟩
    exact agree.slot? once input
  change := by
    rintro store store' ⟨agree, once⟩ name _ ⟨rfl, input⟩ change
    exact ⟨agree.change once input change, once.change input change⟩
  enter := by
    rintro filled scope _ block _ ⟨rfl, rfl, statements⟩
    exact ⟨rfl, statements⟩
  resolve := onInputs_resolve apart

end Simulation

theorem EndsAlike.eq {α : Type} {result result' : Except Stop α}
    (ends : EndsAlike (fun error error' => error = error') result result') : result = result' := by
  cases ends with
  | value value => rfl
  | failed errors => rw [errors]
  | outOfFuel => rfl

namespace Program

/-- The references of a script, with the parameters that calls in its source leave open, are
sufficient inputs. Two stores of one kind that agree on them, each name in one spelling, lead to the
same value or the same error, and agree on them again when the runs are over. The functions of a
block are told apart by their names, as case counts or does not. -/
theorem inputs_sufficient (program : Program) (settings : Settings) (traced : Bool) (fuel : Nat)
    (apart : ∀ block ∈ program.body.nested,
      SpelledAlike settings.caseSensitive block.functions)
    (store store' : Store)
    (agree : store.AgreeOn settings.caseSensitive
      ((program.references settings).variableNames ++ program.openParameters settings) store')
    (once : store.SpelledOnce settings.caseSensitive
      ((program.references settings).variableNames ++ program.openParameters settings)) :
    let outcome := program.runWith fuel ⟨settings, traced, Scope.lookup⟩ .empty (.root store)
    let outcome' := program.runWith fuel ⟨settings, traced, Scope.lookup⟩ .empty (.root store')
    (∀ param, param ∈ program.openParameters settings ↔
      program.LeavesOpen settings.caseSensitive param) ∧
    outcome.result = outcome'.result ∧
    outcome.names.store.AgreeOn settings.caseSensitive
      ((program.references settings).variableNames ++ program.openParameters settings)
      outcome'.names.store ∧
    outcome.names.store.SpelledOnce settings.caseSensitive
      ((program.references settings).variableNames ++ program.openParameters settings) := by
  have bodies : (Simulation.onInputs program settings traced).Blocks [] .empty .empty program.body
      program.body :=
    Simulation.onInputs_block .main fun _ among =>
      .inr (List.mem_append_left _ (mem_references settings among))
  obtain ⟨ends, after⟩ := (Simulation.onInputs_kept apart traced).program bodies fuel ⟨agree, once⟩
  exact ⟨fun _ => mem_openParameters, ends.eq, after⟩

/-- A script that calls a function of two parameters with one argument; the function answers with
the other parameter. -/
def calledShort : Program :=
  ⟨"", ⟨[⟨"f", ["a", "b"], ⟨[], [
      .expression (.assign ⟨"f", none, false⟩ (.variable ⟨"b", none, false⟩))]⟩⟩],
    [.expression (.call "f" [.literal (.ofInt 1)])]⟩⟩

/-- Where case does not count, stores that agree on the open parameter lead to one result, whatever
else they hold and in whatever order. -/
theorem inputs_sufficient_open_parameter :
    let settings : Settings := { Settings.standard 0 with caseSensitive := false }
    let store : Store := .standard (((Variables.empty false).set "B" (.ofInt 9)).set "a" .null)
    let other : Store := .standard
      ((((Variables.empty false).set "a" (.ofInt 2)).set "c" (.ofInt 3)).set "B" (.ofInt 9))
    (calledShort.references settings).variableNames ++ calledShort.openParameters settings =
        ["b"] ∧
      store.AgreeOn false ["b"] other ∧ store.SpelledOnce false ["b"] ∧
      (calledShort.runWith 40 ⟨settings, false, Scope.lookup⟩ .empty (.root other)).result =
        .ok (.ofInt 9) := by
  have ran : (calledShort.runWith 40
      ⟨{ Settings.standard 0 with caseSensitive := false }, false, Scope.lookup⟩ .empty
      (.root (.standard (((Variables.empty false).set "B" (.ofInt 9)).set "a" .null)))).result =
        .ok (.ofInt 9) := rfl
  intro settings store other
  have agree : store.AgreeOn false ["b"] other := by
    refine ⟨rfl, fun name among entry meant => ?_⟩
    rw [List.mem_singleton.1 among] at meant
    have alike : Text.lower entry = Text.lower "b" := (sameName_iff false _ _).1 meant
    have notA : entry ≠ "a" := by
      rintro rfl
      exact absurd alike (by decide +kernel)
    have notC : entry ≠ "c" := by
      rintro rfl
      exact absurd alike (by decide +kernel)
    change ((Registry.empty.insert "B" (Value.ofInt 9)).insert "a" .null).get? entry =
      (((Registry.empty.insert "a" (.ofInt 2)).insert "c" (.ofInt 3)).insert "B" (.ofInt 9)).get?
        entry
    simp only [Registry.get?_insert, if_neg notA, if_neg notC]
  have once : store.SpelledOnce false ["b"] := by
    have single : ∀ entry ∈ ["B", "a"], Text.lower entry = Text.lower "b" → entry = "B" := by
      decide +kernel
    intro _ _ _ name known entry among other member first second
    rw [List.mem_singleton.1 known] at first second
    rw [single entry among first, single other member second]
  have apart : ∀ block ∈ calledShort.body.nested, SpelledAlike false block.functions := by
    intro block within first among second member _
    rcases List.mem_cons.1 within with rfl | deeper
    · rw [List.mem_singleton.1 among, List.mem_singleton.1 member]
    · rw [List.mem_singleton.1 deeper] at among
      cases among
  have same := (inputs_sufficient calledShort settings false 40 apart store other agree once).2.1
  exact ⟨by decide +kernel, agree, once, same.symm.trans ran⟩

/-- The references alone are not sufficient inputs: the script refers to no variable, and yet its
result is what the store has under the name of the open parameter. -/
theorem references_lack_open_parameter :
    let run (store : Store) :=
      calledShort.runWith 40 ⟨.standard 0, false, Scope.lookup⟩ .empty (.root store)
    let store : Store := .standard (.empty false)
    let other : Store := .standard ((Variables.empty false).set "b" (.ofInt 9))
    (calledShort.references (.standard 0)).variableNames = [] ∧
      store.AgreeOn true (calledShort.references (.standard 0)).variableNames other ∧
      (run store).result = .ok .null ∧ (run other).result = .ok (.ofInt 9) :=
  ⟨rfl, ⟨rfl, fun _ among => by cases among⟩, rfl, rfl⟩

end Program
end RuleScript
