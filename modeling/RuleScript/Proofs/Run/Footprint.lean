import RuleScript.Proofs.Namespace.Keys
import RuleScript.Proofs.Run.Effects

/-!
The references of a script bound what it writes. A run changes the store only by the assignments
that stand at the top of the script, since a function writes a frame of its own; the targets of
these assignments are among the references, and a name is kept under a spelling that is looked up
as the name is.
-/
namespace RuleScript

theorem mem_insertName {name other : String} {names : List String} :
    other ∈ insertName name names ↔ other = name ∨ other ∈ names := by
  induction names with
  | nil => simp [insertName]
  | cons head tail others =>
    unfold insertName
    split
    · simp
    split
    · next same => simp [same]
    · simp only [List.mem_cons, others]
      exact or_left_comm

/-- Sorting keeps the names. -/
theorem mem_sortNames {name : String} {names : List String} :
    name ∈ sortNames names ↔ name ∈ names := by
  have folded : ∀ sorted : List String,
      name ∈ names.foldl (fun sorted name => insertName name sorted) sorted ↔
        name ∈ sorted ∨ name ∈ names := by
    induction names with
    | nil => simp
    | cons head tail others =>
      intro sorted
      rw [List.foldl_cons, others, mem_insertName, List.mem_cons, or_assoc]
      exact or_left_comm
  simpa [sortNames] using folded []

/-- The variables among some mentions, as they are looked up, less the hidden ones. -/
theorem Mention.mem_variableNames {caseSensitive : Bool} {hidden : List String}
    {mentions : List Mention} {folded : String} :
    folded ∈ Mention.variableNames caseSensitive hidden mentions ↔
      folded ∉ hidden ∧ ∃ name, .variable name ∈ mentions ∧ foldName caseSensitive name = folded := by
  unfold Mention.variableNames
  rw [List.mem_filterMap]
  constructor
  · rintro ⟨mention, among, found⟩
    cases mention with
    | call name => cases found
    | «variable» name =>
      by_cases covered : foldName caseSensitive name ∈ hidden
      · simp [covered] at found
      · simp only [List.contains_iff_mem, covered, if_false, Option.some.injEq] at found
        subst found
        exact ⟨covered, name, among, rfl⟩
  · rintro ⟨visible, name, among, rfl⟩
    exact ⟨.variable name, among, by simp [visible]⟩

theorem VarRef.mention_self (target : VarRef) : .variable target.name ∈ target.mentions := by
  obtain ⟨name, index, isLocal⟩ := target
  exact List.mem_cons_self

mutual

/-- An expression mentions what it assigns to. -/
theorem Expr.mention_of_target {target : VarRef} :
    (expr : Expr) → target ∈ expr.targets → .variable target.name ∈ expr.mentions
  | .literal _, among => by cases among
  | .variable read, among => VarRef.mention_of_target read among
  | .assign assigned value, among => by
    unfold Expr.targets at among
    unfold Expr.mentions
    rcases List.mem_cons.1 among with rfl | further
    · exact List.mem_append_left _ (VarRef.mention_self _)
    · rcases List.mem_append.1 further with index | inner
      · exact List.mem_append_left _ (VarRef.mention_of_target assigned index)
      · exact List.mem_append_right _ (value.mention_of_target inner)
  | .binary _ left right, among => by
    unfold Expr.targets at among
    exact (List.mem_append.1 among).elim
      (fun first => List.mem_append_left _ (left.mention_of_target first))
      (fun second => List.mem_append_right _ (right.mention_of_target second))
  | .not operand, among => operand.mention_of_target among
  | .builtin _ args, among => mention_of_target_all args among
  | .call _ args, among => List.mem_cons_of_mem _ (mention_of_target_all args among)
  | .substitute primary fallback, among => by
    unfold Expr.targets at among
    exact (List.mem_append.1 among).elim
      (fun first => List.mem_append_left _ (primary.mention_of_target first))
      (fun second => List.mem_append_right _ (fallback.mention_of_target second))

theorem VarRef.mention_of_target {target : VarRef} :
    (read : VarRef) → target ∈ read.targets → .variable target.name ∈ read.mentions
  | ⟨_, index, _⟩, among => List.mem_cons_of_mem _ (mention_of_target_index index among)

theorem mention_of_target_index {target : VarRef} :
    (index : Option Expr) → target ∈ targetsOfIndex index →
      .variable target.name ∈ mentionsOfIndex index
  | none, among => by cases among
  | some index, among => index.mention_of_target among

theorem mention_of_target_all {target : VarRef} :
    (args : List Expr) → target ∈ targetsOfAll args →
      .variable target.name ∈ mentionsOfAll args
  | [], among => by cases among
  | arg :: rest, among => by
    unfold targetsOfAll at among
    exact (List.mem_append.1 among).elim
      (fun first => List.mem_append_left _ (arg.mention_of_target first))
      (fun later => List.mem_append_right _ (mention_of_target_all rest later))

end

mutual

/-- A statement mentions what it assigns to. -/
theorem Statement.mention_of_target {target : VarRef} :
    (statement : Statement) → target ∈ statement.targets →
      .variable target.name ∈ statement.mentions
  | .expression value, among => value.mention_of_target among
  | .branch condition yes no, among => by
    unfold Statement.targets at among
    unfold Statement.mentions
    rcases List.mem_append.1 among with first | inElse
    · rcases List.mem_append.1 first with asked | inThen
      · exact List.mem_append_left _ (List.mem_append_left _ (condition.mention_of_target asked))
      · exact List.mem_append_left _
          (List.mem_append_right _ (mention_of_target_statements yes inThen))
    · exact List.mem_append_right _ (mention_of_target_else no inElse)
  | .loop condition body, among => by
    unfold Statement.targets at among
    exact (List.mem_append.1 among).elim
      (fun asked => List.mem_append_left _ (condition.mention_of_target asked))
      (fun inner => List.mem_append_right _ (mention_of_target_statements body inner))

theorem mention_of_target_else {target : VarRef} :
    (no : Option (List Statement)) → target ∈ targetsOfElse no →
      .variable target.name ∈ mentionsOfElse no
  | none, among => by cases among
  | some statements, among => mention_of_target_statements statements among

theorem mention_of_target_statements {target : VarRef} :
    (statements : List Statement) → target ∈ targetsOfStatements statements →
      .variable target.name ∈ mentionsOfStatements statements
  | [], among => by cases among
  | statement :: rest, among => by
    unfold targetsOfStatements at among
    exact (List.mem_append.1 among).elim
      (fun first => List.mem_append_left _ (statement.mention_of_target first))
      (fun later => List.mem_append_right _ (mention_of_target_statements rest later))

end

/-- What a script mentions outside its functions is among its references. -/
theorem Program.mem_references {program : Program} (settings : Settings) {name : String}
    (mentioned : .variable name ∈ mentionsOfStatements program.body.statements) :
    foldName settings.caseSensitive name ∈ (program.references settings).variableNames := by
  obtain ⟨source, functions, statements⟩ := program
  refine mem_sortNames.2 (List.mem_append_right _ ?_)
  exact Mention.mem_variableNames.2 ⟨List.not_mem_nil, name, mentioned, rfl⟩

/-- A store that matches names exactly where case counts keeps a name under a key that is looked up
as the name is. -/
theorem Store.foldName_key {caseSensitive : Bool} {store : Store}
    (exact : caseSensitive = true → store.folds = false) (name : String) :
    foldName caseSensitive (store.key name) = foldName caseSensitive name := by
  cases caseSensitive with
  | true => rw [key_of_exact (exact rfl)]
  | false =>
    unfold key
    cases store.folds with
    | true => exact foldName_foldName false name
    | false => rfl

/-- Writing variables among the targets changes the store only under names that some target is
looked up by. -/
theorem Namespace.Changed.entries {caseSensitive : Bool} {targets : List VarRef}
    {store : Store} {after : Namespace}
    (changed : Namespace.Changed caseSensitive targets (.root store) after)
    (exact : caseSensitive = true → store.folds = false) :
    ∃ last : Store, after = .root last ∧ last.folds = store.folds ∧
      ∀ name, (∀ target ∈ targets, foldName caseSensitive target.name ≠ foldName caseSensitive name) →
        last.entries.get? name = store.entries.get? name := by
  induction changed with
  | none => exact ⟨store, rfl, rfl, fun _ _ => rfl⟩
  | @write _ written target index value _ among wrote before =>
    obtain ⟨last, rfl, kind, kept⟩ := before
    have altered : ∃ change, written = .root (last.alter
        ((Namespace.root last).resolveName caseSensitive target.name) change) := by
      rw [writeAt?_root] at wrote
      split at wrote <;> cases wrote <;> exact ⟨_, rfl⟩
    obtain ⟨change, rfl⟩ := altered
    refine ⟨_, rfl, by simp [kind], fun name apart => ?_⟩
    have other : name ≠ last.key ((Namespace.root last).resolveName caseSensitive target.name) := by
      rintro rfl
      refine apart target among ?_
      rw [Store.foldName_key (by rwa [kind]), foldName_resolveName]
    rw [Store.entries_alter, Registry.get?_alter, if_neg other, kept name apart]

namespace Program

/-- The references of a script bound its writes. However the run ends, and whether it is traced or
not, each entry of the store whose name, as it is looked up, is not among the references is there
as before, or missing as before. -/
theorem writes_within_references (program : Program) (settings : Settings) (traced : Bool)
    (scope : Scope) (store : Store)
    (exact : settings.caseSensitive = true → store.folds = false) (fuel : Nat) (name : String)
    (unreferenced : foldName settings.caseSensitive name ∉
      (program.references settings).variableNames) :
    (program.runWith fuel ⟨settings, traced, Scope.lookup⟩ scope
      (.root store)).names.store.entries.get? name = store.entries.get? name := by
  have writes : Run.Writes settings.caseSensitive (targetsOfStatements program.body.statements)
      (program.steps fuel ⟨settings, traced, Scope.lookup⟩ scope) :=
    .bind (.nothing fun _ => by cases traced <;> rfl) fun _ =>
      (Machine.confined ⟨settings, traced, Scope.lookup⟩ fuel).block scope program.body
  obtain ⟨last, left, -, kept⟩ := (writes ⟨.root store, [], []⟩).entries exact
  have ended : (program.runWith fuel ⟨settings, traced, Scope.lookup⟩ scope (.root store)).names =
      .root last := left
  rw [ended]
  refine kept name fun target among same => unreferenced ?_
  rw [← same]
  exact mem_references settings (mention_of_target_statements _ among)

/-- A script whose function assigns to its own parameter, under another spelling. -/
def overwriting : Program :=
  ⟨"", ⟨[⟨"f", ["x"], ⟨[], [
      .expression (.assign ⟨"X", none, false⟩ (.literal (.boolean true))),
      .expression (.assign ⟨"f", none, false⟩ (.variable ⟨"x", none, false⟩))]⟩⟩],
    [.expression (.assign ⟨"PRICE", none, false⟩ (.call "F" [.literal .null]))]⟩⟩

/-- The assignment to the parameter leaves the entry of the store with that name alone, while the
one at the top writes the entry that it means. -/
theorem writes_within_references_parameter :
    let settings : Settings := { Settings.standard 0 with caseSensitive := false }
    let store : Store :=
      .standard (((Variables.empty false).set "Price" .null).set "x" (.text "kept"))
    let outcome := overwriting.runWith 40 ⟨settings, false, Scope.lookup⟩ .empty (.root store)
    foldName false "x" ∉ (overwriting.references settings).variableNames ∧
      outcome.names.store.entries.get? "x" = some (.text "kept") ∧
      (outcome.names.store.entries.get? "Price").any Value.isTrue = true := by
  intro settings store outcome
  have unreferenced : foldName false "x" ∉ (overwriting.references settings).variableNames := by
    decide +kernel
  exact ⟨unreferenced, writes_within_references overwriting settings false .empty store
    (fun sensitive => by cases sensitive) 40 "x" unreferenced, by decide +kernel⟩

end Program
end RuleScript
