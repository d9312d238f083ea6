import RuleScript.Proofs.Namespace.Writing

/-!
The order in which names are listed. A level may list its entries in any order, and in another one
once it was written to; the order that a registry has stands for one that is left open. What a name
is bound to does not depend on it (`Registry.get?_of_perm`), and neither does whether a namespace
has a name (`Relisted.contains`). Only the search for another spelling of a name can: it takes the first
that it meets. Where the level that is written to has the name in one spelling
(`Namespace.SpelledOnce`), what was written is read back in whatever order the levels are listed by
then (`Relisted.read_set`).
-/
namespace RuleScript

namespace Registry

variable {α : Type}

/-- What a name is bound to does not depend on the order of the entries. -/
theorem get?_of_perm {registry registry' : Registry α}
    (perm : registry.entries.Perm registry'.entries) (name : String) :
    registry.get? name = registry'.get? name := by
  obtain ⟨entries, nodup⟩ := registry
  obtain ⟨entries', nodup'⟩ := registry'
  dsimp only at perm
  change entries.lookup name = entries'.lookup name
  clear nodup'
  induction perm with
  | nil => rfl
  | cons entry _ others =>
    obtain ⟨other, value⟩ := entry
    rw [lookup_cons_name, lookup_cons_name, others (List.nodup_cons.1 nodup).2]
  | swap first second rest =>
    obtain ⟨one, value⟩ := first
    obtain ⟨two, value'⟩ := second
    have apart : one ≠ two := by
      rintro rfl
      exact (List.nodup_cons.1 nodup).1 List.mem_cons_self
    simp only [lookup_cons_name]
    by_cases same : name = one
    · rw [if_pos same, if_pos same, if_neg (same ▸ apart)]
    · rw [if_neg same, if_neg same]
  | trans former _ first second => exact (first nodup).trans (second ((former.map _).nodup nodup))

theorem mem_names_of_perm {registry registry' : Registry α}
    (perm : registry.entries.Perm registry'.entries) {name : String} :
    name ∈ registry.names ↔ name ∈ registry'.names :=
  (perm.map Prod.fst).mem_iff

/-- There is at most one spelling of the name. -/
def SpelledOnce (registry : Registry α) (name : String) : Prop :=
  ∀ entry ∈ registry.names, ∀ other ∈ registry.names,
    Text.lower entry = Text.lower name → Text.lower other = Text.lower name → entry = other

end Registry

/-- The same entries in a store of the same kind, in any order. -/
structure Store.Relisted (store store' : Store) : Prop where
  kind : store.SameKind store'
  entries : store.entries.entries.Perm store'.entries.entries

namespace Namespace

/-- The same entries on every level, in any order. -/
inductive Relisted : Namespace → Namespace → Prop
  | root {store store' : Store} (stores : store.Relisted store') :
      Relisted (.root store) (.root store')
  | frame {own own' : Frame} {parent parent' : Namespace}
      (mode : own.caseSensitive = own'.caseSensitive)
      (entries : own.entries.entries.Perm own'.entries.entries)
      (outer : Relisted parent parent') : Relisted (.frame own parent) (.frame own' parent')

/-- Each level that folds names has them in lower case. -/
def Folded : Namespace → Prop
  | .root store => store.folds = true → ∀ name ∈ store.entries.names, Text.lower name = name
  | .frame own parent =>
    (own.caseSensitive = false → ∀ name ∈ own.entries.names, Text.lower name = name) ∧
      parent.Folded

/-- Where case does not count and the level that is written to keeps names as they are spelled, it
has the name in at most one spelling. -/
def SpelledOnce (caseSensitive : Bool) (names : Namespace) (name : String) : Prop :=
  caseSensitive = false → names.folds = false → names.innermost.SpelledOnce name

/-- The level that is written to is found by every spelling of a name: it folds names, or is a store
that lists them. -/
def KnowsSpellings : Namespace → Prop
  | .root store => store.lists = true ∨ store.folds = true
  | .frame own _ => own.caseSensitive = false

theorem knowsSpellings_set {names : Namespace} {name : String} {value : Value} :
    (names.set name value).KnowsSpellings ↔ names.KnowsSpellings := by
  cases names with
  | root store =>
    change (store.set name value).lists = true ∨ (store.set name value).folds = true ↔ _
    rw [Store.set_eq, Store.lists_alter, Store.folds_alter]
    rfl
  | frame own parent => rfl

namespace Relisted

variable {names names' : Namespace}

theorem folds (relisted : names.Relisted names') : names.folds = names'.folds := by
  cases relisted with
  | root stores => exact stores.kind.folds
  | frame mode _ _ => exact congrArg (! ·) mode

theorem key (relisted : names.Relisted names') (name : String) :
    names.key name = names'.key name := by
  unfold Namespace.key
  rw [relisted.folds]

theorem innermost (relisted : names.Relisted names') :
    names.innermost.entries.Perm names'.innermost.entries := by
  cases relisted with
  | root stores => exact stores.entries
  | frame _ entries _ => exact entries

theorem mem_names (relisted : names.Relisted names') {name : String} :
    name ∈ names.names ↔ name ∈ names'.names := by
  induction relisted with
  | @root store store' stores =>
    change name ∈ store.names ↔ name ∈ store'.names
    rw [Store.names_eq, Store.names_eq, stores.kind.lists]
    split
    · exact Registry.mem_names_of_perm stores.entries
    · rfl
  | frame _ entries _ outward =>
    unfold Namespace.names
    rw [List.mem_append, List.mem_append, Registry.mem_names_of_perm entries, outward]

end Relisted

/-- A name that is listed is there. -/
theorem contains_of_listed {names : Namespace} (folded : names.Folded) {name : String}
    (listed : name ∈ names.names) : names.contains name = true := by
  have bound {registry : Registry Value} (among : name ∈ registry.names) :
      (registry.get? name).isSome = true := by
    rw [Option.isSome_iff_ne_none]
    exact fun absent => Registry.get?_eq_none_iff.1 absent among
  induction names with
  | root store =>
    change name ∈ store.names at listed
    rw [Store.names_eq] at listed
    split at listed
    · have kept : store.key name = name := by
        unfold Store.key
        cases folds : store.folds with
        | true => exact folded folds name listed
        | false => rfl
      change store.contains name = true
      rw [Store.contains_eq, kept]
      exact bound listed
    · cases listed
  | frame own parent outward =>
    unfold contains
    rw [Bool.or_eq_true]
    rcases List.mem_append.1 listed with here | outer
    · left
      have kept : own.key name = name := by
        unfold Frame.key
        cases mode : own.caseSensitive with
        | true => rfl
        | false => exact folded.1 mode name here
      change (own.entries.get? (own.key name)).isSome = true
      rw [kept]
      exact bound here
    · right
      have there := outward folded.2 outer
      rwa [resolveAmong_of_has there]

/-- Some spelling of a name is there if the name is, or where case does not count another spelling
is listed. -/
theorem contains_resolveName_iff {names : Namespace} (folded : names.Folded) (caseSensitive : Bool)
    (name : String) :
    names.contains (names.resolveName caseSensitive name) = true ↔
      names.contains name = true ∨
        caseSensitive = false ∧ ∃ entry ∈ names.names, Text.lower entry = Text.lower name := by
  unfold resolveName
  cases present : names.contains name with
  | true => simp [resolveAmong_of_has present, present]
  | false =>
    cases caseSensitive with
    | true => simp [resolveAmong, present]
    | false =>
      rw [resolveAmong_of_lacks present]
      cases found : names.names.find? fun entry => Text.lower entry == Text.lower name with
      | none =>
        have absent := List.find?_eq_none.1 found
        simp only [beq_iff_eq] at absent
        simp only [Option.getD_none, present, Bool.false_eq_true, false_or, true_and, false_iff]
        rintro ⟨entry, among, alike⟩
        exact absent entry among alike
      | some entry =>
        have among := List.mem_of_find?_eq_some found
        have alike := List.find?_some found
        simp only [Option.getD_some, contains_of_listed folded among, true_iff]
        exact .inr ⟨trivial, entry, among, beq_iff_eq.1 alike⟩

namespace Relisted

variable {names names' : Namespace}

theorem folded (relisted : names.Relisted names') (folded : names.Folded) : names'.Folded := by
  induction relisted with
  | root stores =>
    intro folds name among
    exact folded (stores.kind.folds ▸ folds) name
      ((Registry.mem_names_of_perm stores.entries).2 among)
  | frame mode entries _ outward =>
    refine ⟨fun insensitive name among => ?_, outward folded.2⟩
    exact folded.1 (mode ▸ insensitive) name ((Registry.mem_names_of_perm entries).2 among)

/-- Which names are there does not depend on the order of the entries. -/
theorem contains (relisted : names.Relisted names') (folded : names.Folded) (name : String) :
    names.contains name = names'.contains name := by
  induction relisted generalizing name with
  | @root store store' stores =>
    change store.contains name = store'.contains name
    rw [Store.contains_eq, Store.contains_eq, stores.kind.key,
      Registry.get?_of_perm stores.entries]
  | @frame own own' parent parent' mode entries outer outward =>
    have owned : own.owns name = own'.owns name := by
      change (own.entries.get? (own.key name)).isSome = (own'.entries.get? (own'.key name)).isSome
      rw [Frame.key, Frame.key, mode, Registry.get?_of_perm entries]
    have further : parent.contains (parent.resolveName own.caseSensitive name) =
        parent'.contains (parent'.resolveName own'.caseSensitive name) := by
      rw [Bool.eq_iff_iff, contains_resolveName_iff folded.2,
        contains_resolveName_iff (outer.folded folded.2), mode, outward folded.2]
      simp only [outer.mem_names]
    change (own.owns name || parent.contains (parent.resolveName own.caseSensitive name)) =
      (own'.owns name || parent'.contains (parent'.resolveName own'.caseSensitive name))
    rw [owned, further]

end Relisted

/-- A name is resolved to the one spelling of it that the innermost level has, unless it is there
itself. -/
theorem resolveName_of_single {names : Namespace} {entry spelling : String}
    (listed : ∃ outer, names.names = names.innermost.names ++ outer)
    (among : entry ∈ names.innermost.names) (alike : Text.lower entry = Text.lower spelling)
    (single : ∀ other ∈ names.innermost.names, Text.lower other = Text.lower spelling →
      other = entry)
    (itself : names.contains spelling = true → spelling = entry) :
    names.resolveName false spelling = entry := by
  obtain ⟨outer, listed⟩ := listed
  unfold resolveName
  cases present : names.contains spelling with
  | true => rw [resolveAmong_of_has present, itself present]
  | false =>
    rw [resolveAmong_of_lacks present, listed, List.find?_append]
    cases found : names.innermost.names.find? fun other =>
        Text.lower other == Text.lower spelling with
    | none => exact absurd (beq_iff_eq.2 alike) (List.find?_eq_none.1 found entry among)
    | some other =>
      have matched := List.find?_some found
      exact single other (List.mem_of_find?_eq_some found) (beq_iff_eq.1 matched)

/-- Where case does not count and the innermost level keeps names as they are spelled, a name that
was written is resolved to the spelling that it was written under, in whatever order the levels are
listed then. -/
theorem Relisted.resolveName_set {names names' : Namespace} {name spelling : String}
    {value : Value} (exact : names.folds = false)
    (relisted : (names.set (names.resolveName false name) value).Relisted names')
    (folded : (names.set (names.resolveName false name) value).Folded)
    (once : (names.set (names.resolveName false name) value).SpelledOnce false name)
    (alike : Text.lower spelling = Text.lower name)
    (known : spelling = name ∨ names.KnowsSpellings) :
    names'.resolveName false spelling = names.resolveName false name := by
  have meant : Text.lower (names.resolveName false name) = Text.lower name :=
    foldName_resolveName names false name
  have kept : names.key (names.resolveName false name) = names.resolveName false name := by
    rw [Namespace.key, exact]
    rfl
  have single := once rfl ((folds_set _ _ _).trans exact)
  have there : names.resolveName false name ∈
      (names.set (names.resolveName false name) value).innermost.names := by
    have bound : (names.set (names.resolveName false name) value).innermost.get?
        (names.resolveName false name) = some value := by
      rw [innermost_set, kept, Registry.get?_insert, if_pos rfl]
    exact Registry.mem_names_of_get? bound
  have among := (Registry.mem_names_of_perm relisted.innermost).1 there
  have only : ∀ other ∈ names'.innermost.names, Text.lower other = Text.lower spelling →
      other = names.resolveName false name := fun other member same =>
    single other ((Registry.mem_names_of_perm relisted.innermost).2 member) _ there
      (same.trans alike) meant
  -- a name that is there itself is the one that it is resolved to
  have itself : names'.contains name = true → name = names.resolveName false name := by
    rw [← relisted.contains folded, contains_set, Bool.or_eq_true, decide_eq_true_eq]
    rintro (same | before)
    · rw [kept, Namespace.key, exact] at same
      exact same
    · exact (resolveAmong_of_has before names.names false).symm
  cases names with
  | root store =>
    cases relisted with
    | @root _ store' stores =>
      have lists : store.lists = store'.lists := by
        rw [← stores.kind.lists, Store.set_eq, Store.lists_alter]
      cases listed : store.lists with
      | true =>
        refine resolveName_of_single ⟨[], ?_⟩ among (meant.trans alike.symm) only fun present => ?_
        · change store'.names = store'.entries.names ++ []
          rw [Store.names_eq, ← lists, listed, List.append_nil]
          rfl
        · have unfolded : store'.folds = false := by
            rw [← stores.kind.folds, Store.set_eq, Store.folds_alter]
            exact exact
          change store'.contains spelling = true at present
          rw [Store.contains_eq, Store.key_of_exact unfolded, Option.isSome_iff_exists] at present
          obtain ⟨_, bound⟩ := present
          exact only spelling (Registry.mem_names_of_get? bound) rfl
      | false =>
        -- where nothing is listed only the name itself is meant
        rcases known with rfl | listing | folding
        · rw [Store.resolveName_of_unlisted listed, Store.resolveName_of_unlisted (lists ▸ listed)]
        · rw [listed] at listing
          cases listing
        · exact absurd folding (Bool.eq_false_iff.1 exact)
  | frame own parent =>
    rcases known with rfl | folding
    · cases relisted with
      | frame _ _ _ => exact resolveName_of_single ⟨_, rfl⟩ among meant only itself
    · change own.caseSensitive = false at folding
      change (!own.caseSensitive) = false at exact
      rw [folding] at exact
      cases exact

/-- What was written under the spelling that a name is resolved to is read back when the name, or
another spelling of it, is resolved again, in whatever order the levels are listed then. -/
theorem Relisted.read_set {caseSensitive : Bool} {names names' : Namespace}
    {name spelling : String} {value : Value}
    (relisted : (names.set (names.resolveName caseSensitive name) value).Relisted names')
    (folded : (names.set (names.resolveName caseSensitive name) value).Folded)
    (once : (names.set (names.resolveName caseSensitive name) value).SpelledOnce
      caseSensitive name)
    (alike : foldName caseSensitive spelling = foldName caseSensitive name)
    (known : spelling = name ∨
      (names.set (names.resolveName caseSensitive name) value).KnowsSpellings) (isLocal : Bool) :
    names'.read isLocal (names'.resolveName caseSensitive spelling) = value := by
  have stored : names'.innermost.get?
      (names'.key (names.resolveName caseSensitive name)) = some value := by
    rw [← Registry.get?_of_perm relisted.innermost, ← relisted.key, innermost_set, key_set,
      Registry.get?_insert, if_pos rfl]
  suffices same : names'.key (names'.resolveName caseSensitive spelling) =
      names'.key (names.resolveName caseSensitive name) from
    read_of_innermost (same ▸ stored) isLocal
  cases caseSensitive with
  | true => exact congrArg names'.key alike
  | false =>
    have kind : names'.folds = names.folds := relisted.folds.symm.trans (folds_set _ _ _)
    cases mode : names.folds with
    | true =>
      -- all spellings have one key
      have lower (other : String) : names'.key other = Text.lower other := by
        rw [Namespace.key, kind, mode]
        rfl
      rw [lower, lower]
      exact (foldName_resolveName names' false spelling).trans
        (alike.trans (foldName_resolveName names false name).symm)
    | false =>
      have exact (other : String) : names'.key other = other := by
        rw [Namespace.key, kind, mode]
        rfl
      rw [exact, exact]
      exact relisted.resolveName_set mode folded once alike (known.imp_right knowsSpellings_set.1)

end Namespace
end RuleScript
