import Mathlib.Data.List.Nodup
import RuleScript.Proofs.Run.Assignment

/-!
Scripts that do not tell case apart. On a store that lists its entries, with no two entries of one
name up to case, a write goes to the entry that has the name in whatever spelling, and adds an entry
only where there is none. So a run never splits a variable in two. The argument is an invariant of
the namespace (`Namespace.Unsplit`): one write keeps it (`Unsplit.set`), and a run only writes
(`Changed.unsplit`).
-/
namespace RuleScript

namespace Store

/-- A store that tells which entries it has: a standard store, as its operations build it, or a
store of the host that lists them. -/
def Listing : Store → Prop
  | .standard vars => vars.Built
  | .host store => store.listed = true

/-- No two entries have the same name up to case. -/
def Apart (store : Store) : Prop :=
  (store.entries.names.map Text.lower).Nodup

variable {store : Store}

theorem Listing.set (listing : store.Listing) (name : String) (value : Value) :
    (store.set name value).Listing := by
  cases store with
  | standard vars => exact .set listing name value
  | host store => exact listing

theorem Listing.tidy (listing : store.Listing) (apart : store.Apart) : store.Tidy := by
  have distinct : ∀ name ∈ store.entries.names, ∀ other ∈ store.entries.names,
      Text.lower name = Text.lower other → name = other :=
    fun _ among _ member same => List.inj_on_of_nodup_map apart among member same
  cases store with
  | standard vars =>
    have built : vars.Built := listing
    exact ⟨rfl, distinct, fun folds => (built.tidy folds).folded folds⟩
  | host store => exact ⟨listing, distinct, fun folds => by cases folds⟩

theorem Tidy.nodup (tidy : store.Tidy) : store.Apart :=
  List.Nodup.map_on (fun name among other member => tidy.apart name among other member)
    store.entries.nodup

end Store

namespace Namespace

/-- Every level has each variable once, whatever its spelling: the store lists its entries and no
two of them have the same name up to case, and the frames keep their names in lower case. -/
inductive Unsplit : Namespace → Prop
  | root {store : Store} (listing : store.Listing) (apart : store.Apart) : Unsplit (.root store)
  | frame {own : Frame} {parent : Namespace} (innermost : own.Regular false)
      (others : Unsplit parent) : Unsplit (.frame own parent)

/-- The entry has the value, under the spelling that it had; all else is as before. -/
structure Updated (entry : String) (value : Value) (before after : Namespace) : Prop where
  names : after.innermost.names.Perm before.innermost.names
  stored : after.innermost.get? entry = some value
  others : ∀ other, other ≠ entry → after.innermost.get? other = before.innermost.get? other
  outer : after.parent? = before.parent?

theorem names_grow_set (names : Namespace) (name : String) (value : Value) :
    names.innermost.names ⊆ (names.set name value).innermost.names := by
  rw [innermost_set, Registry.insert, Registry.names_alter]
  split
  · exact List.Subset.refl _
  · exact List.subset_append_left _ _

/-- Any write sets the variable as a whole to some value. -/
theorem exists_eq_set {names written : Namespace} {isLocal : Bool} {name : String} {value : Value}
    {index : Option (Option Nat)}
    (wrote : names.writeAt? isLocal name value index = some written) :
    ∃ stored, written = names.set name stored := by
  rw [writeAt?_eq_set] at wrote
  match index with
  | none =>
    cases wrote
    exact ⟨value, rfl⟩
  | some none => cases wrote
  | some (some i) =>
    cases wrote
    exact ⟨_, rfl⟩

namespace Unsplit

variable {names : Namespace}

/-- A name that the innermost level has in some spelling is resolved to that spelling. -/
theorem key_resolveName (unsplit : names.Unsplit) {entry name : String}
    (among : entry ∈ names.innermost.names) (alike : Text.lower entry = Text.lower name) :
    names.key (names.resolveName false name) = entry := by
  cases unsplit with
  | root listing apart => exact (listing.tidy apart).key_resolveName among alike
  | frame innermost _ =>
    have lower : Text.lower entry = entry := innermost.folded entry among
    rw [frame_key, innermost.key, foldName_resolveName, foldName_false, ← alike, lower]

/-- A write through the resolved name does not split a variable. -/
theorem set (unsplit : names.Unsplit) (name : String) (value : Value) :
    (names.set (names.resolveName false name) value).Unsplit := by
  cases unsplit with
  | @root store listing apart =>
    have written : (store.set ((Namespace.root store).resolveName false name) value).Tidy := by
      rw [Store.set_eq]
      exact (listing.tidy apart).change name _
    exact .root (listing.set _ value) written.nodup
  | frame innermost others => exact .frame (innermost.set _ value) others

/-- An assignment to a name that the innermost level has in some spelling updates that entry. -/
theorem updated (unsplit : names.Unsplit) {entry : String} {target : VarRef}
    (among : entry ∈ names.innermost.names) (alike : Text.lower entry = Text.lower target.name)
    (index : Option Nat) (value : Value) :
    Updated entry (value.written index (names.innermost.get? entry)) names
      (names.assigned false target index value) := by
  have key := unsplit.key_resolveName among alike
  have old : names.innermost.get? entry = some (names.lookup false target) := by
    cases bound : names.innermost.get? entry with
    | none => exact absurd among (Registry.get?_eq_none_iff.1 bound)
    | some old =>
      rw [← key] at bound
      rw [lookup, read_of_innermost bound]
  unfold assigned
  constructor
  · rw [innermost_set, key, Registry.insert, Registry.names_alter, if_pos among]
  · rw [innermost_set, key, Registry.get?_insert, if_pos rfl, old]
  · intro other different
    rw [innermost_set, key, Registry.get?_insert, if_neg different]
  · exact names.parent?_set _ _

end Unsplit

namespace Changed

variable {targets : List VarRef} {names after : Namespace}

/-- Writes keep all entries. -/
theorem names_grow {caseSensitive : Bool} (changed : Changed caseSensitive targets names after) :
    names.innermost.names ⊆ after.innermost.names := by
  induction changed with
  | none => exact List.Subset.refl _
  | @write middle written _ _ _ _ _ wrote before =>
    obtain ⟨stored, rfl⟩ := exists_eq_set wrote
    exact List.Subset.trans before (middle.names_grow_set _ stored)

theorem unsplit (changed : Changed false targets names after) (unsplit : names.Unsplit) :
    after.Unsplit := by
  induction changed with
  | none => exact unsplit
  | write _ _ wrote before =>
    obtain ⟨stored, rfl⟩ := exists_eq_set wrote
    exact before.set _ stored

/-- On the store itself, writes leave a store whose entries are apart and have those that were there
among them. -/
theorem unsplit_root {store : Store} (changed : Changed false targets (.root store) after)
    (listing : store.Listing) (apart : store.Apart) :
    ∃ last : Store, after = .root last ∧ last.Listing ∧ last.Apart ∧
      store.entries.names ⊆ last.entries.names := by
  have grown := changed.names_grow
  have level := changed.parent?
  have unsplit := changed.unsplit (.root listing apart)
  cases unsplit with
  | root listing apart => exact ⟨_, rfl, listing, apart, grown⟩
  | frame _ _ => cases level

end Changed
end Namespace

theorem Run.names_note {traced : Bool} {value : Value} {machine noted : Machine}
    (kept : Run.note traced value machine = (.ok (), noted)) : noted.names = machine.names := by
  cases traced with
  | false =>
    cases kept
    rfl
  | true =>
    cases kept
    rfl

namespace Program

/-- Runs that do not tell case apart never split a variable in two. If the store lists its entries
and no two of them have the same name up to case, then this is so after the run of any script,
however the run ends; the entries that were there keep their spelling. An assignment, at the top or
in a call, to a name that is there in some spelling by the time of the write updates the entry with
that spelling and adds none; a call opens a frame on which the same holds. -/
theorem variables_never_split (settings : Settings) (insensitive : settings.caseSensitive = false)
    (traced : Bool) :
    let context : Context Scope := ⟨settings, traced, Scope.lookup⟩
    (∀ (program : Program) (scope : Scope) (store : Store) (fuel : Nat),
      store.Listing → store.Apart →
      ∃ last : Store, (program.runWith fuel context scope (.root store)).names = .root last ∧
        last.Listing ∧ last.Apart ∧ store.entries.names ⊆ last.entries.names) ∧
    (∀ (fuel : Nat) (place : Scope) (target : VarRef) (expr : Expr) (machine after : Machine)
      (r : Value), machine.names.Unsplit →
      Machine.evalNode context (fuel + 1) place (.assign target expr) machine = (.ok r, after) →
      ∃ mid noted index before,
        Machine.evalExpr context fuel place expr machine = (.ok r, mid) ∧
        noted.names = mid.names ∧
        Machine.evalIndex context fuel place target.index noted =
          (.ok (Option.map some index), before) ∧
        machine.names.innermost.names ⊆ before.names.innermost.names ∧
        after.names.Unsplit ∧
        ∀ entry ∈ before.names.innermost.names, Text.lower entry = Text.lower target.name →
          Namespace.Updated entry (r.written index (before.names.innermost.get? entry))
            before.names after.names) ∧
    ∀ (names : Namespace) (function : FunctionDef) (values : List Value), names.Unsplit →
      (Namespace.frame (((Frame.empty false).set function.name .null).bind function.params values)
        names).Unsplit := by
  intro context
  refine ⟨fun program scope store fuel listing apart => ?_,
    fun fuel place target expr machine after r unsplit ran => ?_,
    fun names function values unsplit => ?_⟩
  · have writes : Run.Writes settings.caseSensitive (targetsOfStatements program.body.statements)
        (program.steps fuel context scope) :=
      .bind (.nothing fun _ => by cases traced <;> rfl) fun _ =>
        (Machine.confined context fuel).block scope program.body
    rw [insensitive] at writes
    exact (writes ⟨.root store, [], []⟩).unsplit_root listing apart
  · obtain ⟨mid, noted, index, before, evaluated, kept, addressed, rfl⟩ :=
      Machine.evalNode_assign_cases ran
    have first : Namespace.Changed settings.caseSensitive expr.targets machine.names mid.names := by
      have changed := (Machine.confined context fuel).expr place expr machine
      rwa [evaluated] at changed
    have second : Namespace.Changed settings.caseSensitive (targetsOfIndex target.index)
        noted.names before.names := by
      have changed := (Machine.confined context fuel).index place target.index noted
      rwa [addressed] at changed
    have same := Run.names_note kept
    rw [same] at second
    have grown := List.Subset.trans first.names_grow second.names_grow
    rw [insensitive] at first second
    have ready := second.unsplit (first.unsplit unsplit)
    refine ⟨mid, noted, index, before, evaluated, same, addressed, grown, ?_, ?_⟩
    · change (before.names.assigned settings.caseSensitive target index r).Unsplit
      rw [insensitive]
      exact ready.set _ _
    · intro entry among alike
      change Namespace.Updated entry _ _
        (before.names.assigned settings.caseSensitive target index r)
      rw [insensitive]
      exact ready.updated among alike index r
  · exact .frame (((Frame.regular_empty false).set _ _).bind _ _) unsplit

/-- A script that writes two variables under changing spellings, an element among them, and then
fails. -/
def respelling : Program :=
  ⟨"", ⟨[], [
    .expression (.assign ⟨"Fresh", none, false⟩
      (.assign ⟨"PRICE", some (.literal (.ofInt 1)), false⟩ (.literal .null))),
    .expression (.assign ⟨"fresh", none, false⟩ (.literal (.boolean true))),
    .expression (.call "missing" [])]⟩⟩

/-- On a store of the host that matches names exactly, the script adds the one variable that is new,
and an assignment to the other updates it under the spelling that it has. -/
theorem variables_never_split_respelled :
    let settings : Settings := { Settings.standard 0 with caseSensitive := false }
    let context : Context Scope := ⟨settings, false, Scope.lookup⟩
    let store : Store := .host ⟨Registry.empty.insert "Price" .null, true⟩
    let outcome := respelling.runWith 40 context .empty (.root store)
    store.Listing ∧ store.Apart ∧
      (∃ last : Store, outcome.names = .root last ∧ last.Listing ∧ last.Apart ∧
        store.entries.names ⊆ last.entries.names) ∧
      outcome.names.store.entries.names = ["Price", "Fresh"] ∧
      ∃ after, Machine.evalNode context 5 .empty
          (.assign ⟨"PRICE", none, false⟩ (.literal (.boolean true))) ⟨.root store, [], []⟩ =
            (.ok (.boolean true), after) ∧
        Namespace.Updated "Price" (.boolean true) (.root store) after.names := by
  intro settings context store outcome
  have listing : store.Listing := rfl
  have apart : store.Apart := by
    change (store.entries.names.map Text.lower).Nodup
    decide +kernel
  obtain ⟨runs, assignments, -⟩ := variables_never_split settings rfl false
  refine ⟨listing, apart, runs respelling .empty store 40 listing apart, by decide +kernel, ?_⟩
  have known : Machine.evalExpr context 4 .empty (.literal (.boolean true)) ⟨.root store, [], []⟩ =
      (.ok (.boolean true), ⟨.root store, [], []⟩) := rfl
  have written : ∃ after, Machine.evalNode context 5 .empty
      (.assign ⟨"PRICE", none, false⟩ (.literal (.boolean true))) ⟨.root store, [], []⟩ =
        (.ok (.boolean true), after) := by
    rw [← Machine.evalExpr_untraced rfl]
    exact ⟨_, (Machine.evalExpr_assign_of_ok rfl known rfl).trans
      (Run.write_picked false _ none _ _)⟩
  obtain ⟨after, ran⟩ := written
  obtain ⟨mid, noted, index, before, evaluated, same, addressed, -, -, updates⟩ :=
    assignments 4 .empty _ _ _ _ _ (.root listing apart) ran
  refine ⟨after, ran, ?_⟩
  cases known.symm.trans evaluated
  cases index with
  | some i => cases addressed
  | none =>
    cases addressed
    rw [same] at updates
    exact updates "Price" (by decide +kernel) (by decide +kernel)

end Program
end RuleScript
