import RuleScript.Proofs.Namespace.Lookup
import RuleScript.Proofs.Scope.Declarations

/-!
Stores on which case does not matter. A store that lists its names and holds no two of one meaning
(`Store.Tidy`) has one entry for each name, whatever its spelling, and a script that writes to it
leaves it so. A folding store is tidy however it came about.
-/
namespace RuleScript

namespace Store

/-- The store lists its names, and no two of them mean the same; a folding store keeps them in lower
case. -/
structure Tidy (store : Store) : Prop where
  lists : store.lists = true
  apart : ∀ name ∈ store.entries.names, ∀ other ∈ store.entries.names,
    Text.lower name = Text.lower other → name = other
  folded : store.folds = true → ∀ name ∈ store.entries.names, Text.lower name = name

theorem lower_key (store : Store) (name : String) :
    Text.lower (store.key name) = Text.lower name := by
  unfold key
  cases store.folds with
  | true => exact Text.lower_lower name
  | false => rfl

theorem lower_key_resolveName (store : Store) (name : String) :
    Text.lower (store.key ((Namespace.root store).resolveName false name)) = Text.lower name :=
  (store.lower_key _).trans (Namespace.foldName_resolveName _ false name)

theorem mem_names_alter {store : Store} {name other : String} {change : Option Value → Value} :
    other ∈ (store.alter name change).entries.names ↔
      other = store.key name ∨ other ∈ store.entries.names := by
  rw [← not_iff_not, not_or, ← Registry.get?_eq_none_iff, ← Registry.get?_eq_none_iff,
    entries_alter, Registry.get?_alter]
  split
  · next same => simp [same]
  · next other => simp [other]

/-- A name that a listing store has in one spelling only is resolved to that spelling. -/
theorem key_resolveName_of_single {store : Store} (lists : store.lists = true)
    (folded : store.folds = true → ∀ name ∈ store.entries.names, Text.lower name = name)
    {entry name : String} (among : entry ∈ store.entries.names)
    (alike : Text.lower entry = Text.lower name)
    (single : ∀ other ∈ store.entries.names, Text.lower other = Text.lower name → other = entry) :
    store.key ((Namespace.root store).resolveName false name) = entry := by
  suffices there : store.key ((Namespace.root store).resolveName false name) ∈
      store.entries.names from
    single _ there (store.lower_key_resolveName name)
  change store.key (resolveAmong store.contains store.names false name) ∈ _
  cases present : store.contains name with
  | true =>
    rw [resolveAmong_of_has present]
    rw [contains_eq, Option.isSome_iff_exists] at present
    obtain ⟨value, bound⟩ := present
    exact Registry.mem_names_of_get? bound
  | false =>
    rw [resolveAmong_of_lacks present, names_eq, lists, if_pos rfl]
    cases found : store.entries.names.find? fun entry => Text.lower entry == Text.lower name with
    | none =>
      have unmatched := List.find?_eq_none.1 found entry among
      exact absurd (beq_iff_eq.2 alike) unmatched
    | some spelled =>
      have member := List.mem_of_find?_eq_some found
      have kept : store.key spelled = spelled := by
        unfold key
        cases folds : store.folds with
        | true => exact folded folds spelled member
        | false => rfl
      rw [Option.getD_some, kept]
      exact member

/-- A name that the store has in no spelling stands for itself. -/
theorem resolveName_of_absent {store : Store} {name : String}
    (absent : ∀ entry ∈ store.entries.names, Text.lower entry ≠ Text.lower name) :
    (Namespace.root store).resolveName false name = name := by
  change resolveAmong store.contains store.names false name = name
  cases present : store.contains name with
  | true => exact resolveAmong_of_has present _ _
  | false =>
    have unlisted :
        store.names.find? (fun entry => Text.lower entry == Text.lower name) = none := by
      rw [names_eq, List.find?_eq_none]
      intro entry among alike
      split at among
      · exact absent entry among (beq_iff_eq.1 alike)
      · cases among
    rw [resolveAmong_of_lacks present, unlisted, Option.getD_none]

/-- Where nothing is listed each name stands for itself. -/
theorem resolveName_of_unlisted {store : Store} (unlisted : store.lists = false)
    (caseSensitive : Bool) (name : String) :
    (Namespace.root store).resolveName caseSensitive name = name := by
  change resolveAmong store.contains store.names caseSensitive name = name
  rw [names_eq, unlisted]
  unfold resolveAmong
  split <;> rfl

namespace Tidy

variable {store : Store}

/-- A name that the store has in some spelling is resolved to that spelling. -/
theorem key_resolveName (tidy : store.Tidy) {entry name : String}
    (among : entry ∈ store.entries.names) (alike : Text.lower entry = Text.lower name) :
    store.key ((Namespace.root store).resolveName false name) = entry :=
  key_resolveName_of_single tidy.lists tidy.folded among alike fun other member same =>
    tidy.apart other member entry among (same.trans alike.symm)

/-- What the store has for a name does not depend on its spelling. -/
theorem find?_eq_get? (tidy : store.Tidy) {entry name : String}
    (among : entry ∈ store.entries.names) (alike : Text.lower entry = Text.lower name) :
    store.entries.find? false name = store.entries.get? entry := by
  rw [Registry.find?_eq, Registry.get?, Registry.lookup_eq_find?]
  refine congrArg (Option.map Prod.snd) (List.find?_congr fun other member => ?_)
  rw [Bool.eq_iff_iff, sameName_iff, beq_iff_eq]
  constructor
  · intro same
    exact tidy.apart _ (List.mem_map_of_mem member) _ among (same.trans alike.symm)
  · intro same
    rw [same]
    exact alike

end Tidy

theorem find?_eq_none {store : Store} {name : String}
    (absent : ∀ entry ∈ store.entries.names, Text.lower entry ≠ Text.lower name) :
    store.entries.find? false name = none := by
  rw [Registry.find?_eq, Option.map_eq_none_iff, List.find?_eq_none]
  intro entry member same
  exact absent entry.1 (List.mem_map_of_mem member) ((sameName_iff false _ _).1 same)

namespace Tidy

variable {store : Store}

theorem slot? (tidy : store.Tidy) (name : String) :
    store.slot? false name = store.entries.find? false name := by
  by_cases there : ∃ entry ∈ store.entries.names, Text.lower entry = Text.lower name
  · obtain ⟨entry, among, alike⟩ := there
    rw [Store.slot?, tidy.key_resolveName among alike, tidy.find?_eq_get? among alike]
  · have absent : ∀ entry ∈ store.entries.names, Text.lower entry ≠ Text.lower name :=
      fun entry among alike => there ⟨entry, among, alike⟩
    rw [find?_eq_none absent]
    exact Registry.get?_eq_none_iff.2 fun member =>
      absent _ member (store.lower_key_resolveName name)

/-- Writing a name keeps the store tidy. -/
theorem change (tidy : store.Tidy) (name : String) (change : Option Value → Value) :
    (store.change false name change).Tidy := by
  have written : ∀ entry ∈ store.entries.names,
      Text.lower entry = Text.lower
        (store.key ((Namespace.root store).resolveName false name)) →
      entry = store.key ((Namespace.root store).resolveName false name) := by
    intro entry among alike
    rw [store.lower_key_resolveName] at alike
    exact (tidy.key_resolveName among alike).symm
  refine ⟨by rw [Store.change, lists_alter, tidy.lists], fun first among second member same => ?_,
    fun folds entry among => ?_⟩
  · rcases mem_names_alter.1 among with rfl | before <;>
      rcases mem_names_alter.1 member with rfl | before'
    · rfl
    · exact (written second before' same.symm).symm
    · exact written first before same
    · exact tidy.apart first before second before' same
  · rw [Store.change, folds_alter] at folds
    rcases mem_names_alter.1 among with rfl | before
    · rw [lower_key]
      unfold key
      rw [folds]
      rfl
    · exact tidy.folded folds entry before

/-- After a name was written, the store has the new value for it in every spelling, and what it had
for all other names. -/
theorem find?_change (tidy : store.Tidy) (name : String) (change : Option Value → Value)
    (other : String) :
    (store.change false name change).entries.find? false other =
      if Text.lower other = Text.lower name then some (change (store.entries.find? false name))
      else store.entries.find? false other := by
  have after := tidy.change name change
  have key := store.lower_key_resolveName name
  have names (entry : String) : entry ∈ (store.change false name change).entries.names ↔
      entry = store.key ((Namespace.root store).resolveName false name) ∨
        entry ∈ store.entries.names :=
    mem_names_alter
  have bound (entry : String) : (store.change false name change).entries.get? entry =
      if entry = store.key ((Namespace.root store).resolveName false name) then
        some (change (store.slot? false name))
      else store.entries.get? entry := by
    rw [Store.change, entries_alter, Registry.get?_alter]
    rfl
  split
  · next same =>
    rw [after.find?_eq_get? ((names _).2 (.inl rfl)) (key.trans same.symm), bound, if_pos rfl,
      tidy.slot?]
  · next apart =>
    have elsewhere {entry : String} (alike : Text.lower entry = Text.lower other) :
        entry ≠ store.key ((Namespace.root store).resolveName false name) := by
      rintro rfl
      exact apart (alike.symm.trans key)
    by_cases there : ∃ entry ∈ store.entries.names, Text.lower entry = Text.lower other
    · obtain ⟨entry, among, alike⟩ := there
      rw [after.find?_eq_get? ((names _).2 (.inr among)) alike, bound, if_neg (elsewhere alike),
        tidy.find?_eq_get? among alike]
    · have absent : ∀ entry ∈ store.entries.names, Text.lower entry ≠ Text.lower other :=
        fun entry among alike => there ⟨entry, among, alike⟩
      rw [find?_eq_none absent, find?_eq_none]
      intro entry among alike
      exact absent entry (((names entry).1 among).resolve_left (elsewhere alike)) alike

end Tidy

end Store

/-- The standard stores that are built up from an empty one. -/
inductive Variables.Built : Variables → Prop
  | empty (folds : Bool) : Built (.empty folds)
  | set {vars : Variables} (before : Built vars) (name : String) (value : Value) :
      Built (vars.set name value)
  | setElement {vars : Variables} (before : Built vars) (name : String) (index : Nat)
      (value : Value) : Built (vars.setElement name index value)
  | remove {vars : Variables} (before : Built vars) (name : String) : Built (vars.remove name)

/-- A folding store is tidy however it was built. -/
theorem Variables.Built.tidy {vars : Variables} (built : vars.Built) (folds : vars.folds = true) :
    (Store.standard vars).Tidy := by
  have lower : ∀ name ∈ vars.entries.names, Text.lower name = name := by
    have altered {vars : Variables}
        (before : ∀ name ∈ vars.entries.names, Text.lower name = name) (folds : vars.folds = true)
        {written : String} {change : Option Value → Value} :
        ∀ name ∈ (vars.entries.alter (vars.key written) change).names, Text.lower name = name := by
      intro name among
      rcases Registry.mem_names_alterEntries among with rfl | earlier
      · rw [Variables.key, folds]
        exact Text.lower_lower written
      · exact before name earlier
    induction built with
    | empty _ => exact fun _ among => by cases among
    | set _ name value before => exact altered (before folds) folds
    | setElement _ name index value before => exact altered (before folds) folds
    | remove _ name before =>
      intro other among
      obtain ⟨entry, member, rfl⟩ := List.mem_map.1 among
      exact before folds _ (List.mem_map_of_mem (List.mem_filter.1 member).1)
  refine ⟨rfl, fun name among other member same => ?_, fun _ => lower⟩
  rw [← lower name among, ← lower other member, same]

end RuleScript
