import Mathlib
import RuleScript.Json.Exchange
import RuleScript.Proofs.Json.Order
import RuleScript.Proofs.Namespace.Lookup

/-!
Loading variables from a document. The leaves of a document are what it holds outside of its groups,
each with the keys on the way to it (`Json.leaves`); a leaf is named by these keys with points
between them. Loading goes through the groups with a name and a store in hand, and is the same as
writing the leaves one after another (`Json.addMembers_eq_load`). It fails where an array holds an
object, and else the last leaf of each name stays.
-/
namespace RuleScript

namespace Registry

variable {α : Type}

/-- A registry made in turn has for a name what the list has last. -/
theorem get?_foldl_insert (entries : List (String × α)) (registry : Registry α) (name : String) :
    (entries.foldl (fun registry entry => registry.insert entry.1 entry.2) registry).get? name =
      (entries.reverse.lookup name).or (registry.get? name) := by
  induction entries generalizing registry with
  | nil => simp
  | cons head rest others =>
    rw [List.foldl_cons, others, get?_insert, List.reverse_cons, List.lookup_append,
      lookup_cons_name]
    cases rest.reverse.lookup name with
    | some value => rfl
    | none => split <;> rfl

theorem get?_ofList (entries : List (String × α)) (name : String) :
    (ofList entries).get? name = entries.reverse.lookup name := by
  rw [ofList, get?_foldl_insert, get?_empty, Option.or_none]

theorem alterEntries_of_not_mem {name : String} (change : Option α → α)
    {entries : List (String × α)} (absent : name ∉ entries.map Prod.fst) :
    alterEntries name change entries = entries ++ [(name, change none)] := by
  induction entries with
  | nil => rfl
  | cons head rest others =>
    rw [List.map_cons, List.mem_cons, not_or] at absent
    rw [alterEntries, if_neg (Ne.symm absent.1), others absent.2, List.cons_append]

/-- Different names are all kept, in their order. -/
theorem entries_foldl_insert (entries : List (String × α)) (registry : Registry α)
    (distinct : ((registry.entries ++ entries).map Prod.fst).Nodup) :
    (entries.foldl (fun registry entry => registry.insert entry.1 entry.2) registry).entries =
      registry.entries ++ entries := by
  induction entries generalizing registry with
  | nil => simp
  | cons head rest others =>
    have absent : head.1 ∉ registry.entries.map Prod.fst := by
      rw [List.map_append, List.nodup_append] at distinct
      intro among
      exact distinct.2.2 _ among _ List.mem_cons_self rfl
    have inserted : (registry.insert head.1 head.2).entries = registry.entries ++ [head] :=
      alterEntries_of_not_mem _ absent
    rw [List.foldl_cons, others, inserted, List.append_assoc, List.singleton_append]
    rwa [inserted, List.append_assoc, List.singleton_append]

theorem entries_ofList {entries : List (String × α)} (distinct : (entries.map Prod.fst).Nodup) :
    (ofList entries).entries = entries :=
  entries_foldl_insert entries empty distinct

end Registry

namespace Json

section Leaves

mutual

/-- What a document holds outside of its groups, with the keys on the way, in the order of the
document. -/
def leaves : Json → List (List String × Json)
  | .object members => memberLeaves members
  | .null => [([], .null)]
  | .boolean b => [([], .boolean b)]
  | .number n => [([], .number n)]
  | .text s => [([], .text s)]
  | .array items => [([], .array items)]

def memberLeaves : List (String × Json) → List (List String × Json)
  | [] => []
  | (key, document) :: rest =>
    (document.leaves.map fun leaf => (key :: leaf.1, leaf.2)) ++ memberLeaves rest

end

/-- The name of a leaf: the keys on the way with points between them. There is no point behind a
group without a name. -/
def leafName (path : List String) : String :=
  ".".intercalate (path.dropWhile String.isEmpty)

/-- The name that is reached from a group by going on along some keys. -/
def nameFrom (group : String) (path : List String) : String :=
  path.foldl memberName group

theorem nameFrom_of_named {group : String} (named : group.isEmpty = false) (path : List String) :
    nameFrom group path = ".".intercalate (group :: path) := by
  induction path generalizing group with
  | nil => exact String.intercalate_singleton.symm
  | cons key rest others =>
    have member : memberName group key = group ++ "." ++ key := by
      rw [memberName, named, if_neg Bool.false_ne_true]
    have inner : (memberName group key).isEmpty = false := by
      rw [member]
      simp [String.isEmpty_eq_false_iff]
    change nameFrom (memberName group key) rest = _
    rw [others inner, member, String.intercalate_cons_append, String.intercalate_cons_cons]

theorem nameFrom_top (path : List String) : nameFrom "" path = leafName path := by
  induction path with
  | nil => rfl
  | cons key rest others =>
    change nameFrom key rest = _
    cases blank : key.isEmpty with
    | true =>
      rw [String.isEmpty_iff.1 blank, others]
      rfl
    | false =>
      rw [nameFrom_of_named blank, leafName, List.dropWhile_cons_of_neg (by simp [blank])]

end Leaves

section Conversion

/-- The document is an object, or an array that holds one at any depth. -/
inductive HoldsObject : Json → Prop
  | object (members : List (String × Json)) : HoldsObject (.object members)
  | item {items : List Json} {item : Json} (among : item ∈ items) (inner : HoldsObject item) :
      HoldsObject (.array items)

theorem holdsObject_array_iff {items : List Json} :
    HoldsObject (.array items) ↔ ∃ item ∈ items, HoldsObject item := by
  constructor
  · rintro ⟨⟩
    exact ⟨_, ‹_›, ‹_›⟩
  · rintro ⟨item, among, inner⟩
    exact .item among inner

mutual

/-- A document is refused exactly where it holds an object, and what it is converted to does not
depend on where it stands. -/
theorem valueAt_cases : (document : Json) →
    (HoldsObject document ∧
      ∀ path, ∃ place, document.valueAt path = .error (.unsupportedObject place)) ∨
    (¬HoldsObject document ∧ ∃ value, ∀ path, document.valueAt path = .ok value)
  | .null => .inr ⟨by rintro ⟨⟩, _, fun _ => rfl⟩
  | .boolean _ => .inr ⟨by rintro ⟨⟩, _, fun _ => rfl⟩
  | .number _ => .inr ⟨by rintro ⟨⟩, _, fun _ => rfl⟩
  | .text _ => .inr ⟨by rintro ⟨⟩, _, fun _ => rfl⟩
  | .object members => .inl ⟨.object members, fun path => ⟨path, rfl⟩⟩
  | .array items => by
    rw [holdsObject_array_iff]
    rcases valuesAt_cases items with ⟨holds, fails⟩ | ⟨plain, values, converted⟩
    · refine .inl ⟨holds, fun path => ?_⟩
      obtain ⟨place, failed⟩ := fails path 0
      exact ⟨place, by rw [valueAt, failed]; rfl⟩
    · refine .inr ⟨fun ⟨item, among, holds⟩ => plain item among holds, .array values, fun path => ?_⟩
      rw [valueAt, converted]
      rfl

theorem valuesAt_cases : (items : List Json) →
    ((∃ item ∈ items, HoldsObject item) ∧
      ∀ path index, ∃ place, valuesAt path index items = .error (.unsupportedObject place)) ∨
    ((∀ item ∈ items, ¬HoldsObject item) ∧
      ∃ values, ∀ path index, valuesAt path index items = .ok values)
  | [] => .inr ⟨by simp, _, fun _ _ => rfl⟩
  | item :: rest => by
    rcases valueAt_cases item with ⟨holds, fails⟩ | ⟨plain, value, converted⟩
    · refine .inl ⟨⟨item, List.mem_cons_self, holds⟩, fun path index => ?_⟩
      obtain ⟨place, failed⟩ := fails (path ++ "[" ++ toString index ++ "]")
      exact ⟨place, by rw [valuesAt, failed]; rfl⟩
    · rcases valuesAt_cases rest with ⟨⟨other, among, holds⟩, fails⟩ | ⟨others, values, further⟩
      · refine .inl ⟨⟨other, List.mem_cons_of_mem _ among, holds⟩, fun path index => ?_⟩
        obtain ⟨place, failed⟩ := fails path (index + 1)
        exact ⟨place, by rw [valuesAt, converted, failed]; rfl⟩
      · refine .inr ⟨List.forall_mem_cons.2 ⟨plain, others⟩, value :: values, fun path index => ?_⟩
        rw [valuesAt, converted, further]
        rfl

end

/-- The value of a document; only one without objects has any. -/
def storedValue (document : Json) : Value :=
  match document.toValue with
  | .ok value => value
  | .error _ => .null

theorem valueAt_of_plain {document : Json} (plain : ¬HoldsObject document) (path : String) :
    document.valueAt path = .ok document.storedValue := by
  rcases valueAt_cases document with ⟨holds, -⟩ | ⟨-, value, converted⟩
  · exact absurd holds plain
  · rw [storedValue, toValue, converted, converted]

theorem valueAt_of_holdsObject {document : Json} (holds : HoldsObject document) (path : String) :
    ∃ place, document.valueAt path = .error (.unsupportedObject place) := by
  rcases valueAt_cases document with ⟨-, fails⟩ | ⟨plain, -⟩
  · exact fails path
  · exact absurd holds plain

end Conversion

section Loading

/-- Writes documents under names, one after another. -/
def load (vars : Variables) (entries : List (String × Json)) : Except ConvertError Variables :=
  entries.foldlM (fun vars entry => (entry.2.valueAt entry.1).map (vars.set entry.1)) vars

theorem load_cons (vars : Variables) (entry : String × Json) (rest : List (String × Json)) :
    load vars (entry :: rest) =
      ((entry.2.valueAt entry.1).map (vars.set entry.1) >>= fun vars => load vars rest) :=
  List.foldlM_cons

theorem load_append (vars : Variables) (entries others : List (String × Json)) :
    load vars (entries ++ others) = (load vars entries >>= fun vars => load vars others) :=
  List.foldlM_append

theorem load_single (vars : Variables) (name : String) (document : Json) :
    load vars [(name, document)] = (document.valueAt name).map (vars.set name) := by
  rw [load_cons]
  cases (document.valueAt name).map (vars.set name) <;> rfl

/-- The leaves under the names that they have inside a group. -/
def namedLeaves (group : String) (leaves : List (List String × Json)) : List (String × Json) :=
  leaves.map fun leaf => (nameFrom group leaf.1, leaf.2)

mutual

theorem addMember_eq_load (name : String) (vars : Variables) :
    (document : Json) → addMember name vars document = load vars (namedLeaves name document.leaves)
  | .object members => by
    rw [addMember, leaves]
    exact addMembers_eq_load name vars members
  | .null => (load_single vars name .null).symm
  | .boolean b => (load_single vars name (.boolean b)).symm
  | .number n => (load_single vars name (.number n)).symm
  | .text s => (load_single vars name (.text s)).symm
  | .array items => (load_single vars name (.array items)).symm

/-- Going through the groups is writing the leaves one after another. -/
theorem addMembers_eq_load (group : String) (vars : Variables) :
    (members : List (String × Json)) →
      addMembers group vars members = load vars (namedLeaves group (memberLeaves members))
  | [] => rfl
  | (key, document) :: rest => by
    have below : namedLeaves group (document.leaves.map fun leaf => (key :: leaf.1, leaf.2)) =
        namedLeaves (memberName group key) document.leaves :=
      List.map_map
    have parts : namedLeaves group (memberLeaves ((key, document) :: rest)) =
        namedLeaves (memberName group key) document.leaves ++
          namedLeaves group (memberLeaves rest) := by
      rw [memberLeaves, namedLeaves, List.map_append]
      exact congrArg (· ++ _) below
    rw [addMembers, parts, load_append, addMember_eq_load (memberName group key) vars document]
    congr 1
    funext vars
    exact addMembers_eq_load group vars rest

end

theorem load_of_plain {entries : List (String × Json)}
    (plain : ∀ entry ∈ entries, ¬HoldsObject entry.2) (vars : Variables) :
    load vars entries =
      .ok (entries.foldl (fun vars entry => vars.set entry.1 entry.2.storedValue) vars) := by
  induction entries generalizing vars with
  | nil => rfl
  | cons entry rest others =>
    obtain ⟨first, later⟩ := List.forall_mem_cons.1 plain
    rw [load_cons, valueAt_of_plain first]
    exact others later _

theorem load_of_holdsObject {entries : List (String × Json)}
    (holds : ∃ entry ∈ entries, HoldsObject entry.2) (vars : Variables) :
    ∃ place, load vars entries = .error (.unsupportedObject place) := by
  induction entries generalizing vars with
  | nil => simp at holds
  | cons entry rest others =>
    rw [load_cons]
    by_cases first : HoldsObject entry.2
    · obtain ⟨place, failed⟩ := valueAt_of_holdsObject first entry.1
      exact ⟨place, by rw [failed]; rfl⟩
    · rw [valueAt_of_plain first]
      refine others ?_ _
      rcases holds with ⟨found, among, inner⟩
      rcases List.mem_cons.1 among with rfl | later
      · exact absurd inner first
      · exact ⟨found, later, inner⟩

/-- Writing in turn is binding the kept names in turn. -/
theorem foldl_set (entries : List (String × Json)) (vars : Variables) :
    entries.foldl (fun vars entry => vars.set entry.1 entry.2.storedValue) vars =
      ⟨(entries.map fun entry => (vars.key entry.1, entry.2.storedValue)).foldl
        (fun registry entry => registry.insert entry.1 entry.2) vars.entries, vars.folds⟩ := by
  induction entries generalizing vars with
  | nil => rfl
  | cons entry rest others => exact others (vars.set entry.1 entry.2.storedValue)

/-- The name under which a leaf is kept. -/
def leafKey (settings : Settings) (leaf : List String × Json) : String :=
  foldName settings.caseSensitive (leafName leaf.1)

/-- The variables that the leaves of a document make. -/
def flattened (settings : Settings) (document : Json) : Variables :=
  ⟨.ofList (document.leaves.map fun leaf => (leafKey settings leaf, leaf.2.storedValue)),
    !settings.caseSensitive⟩

theorem toVariables_object (settings : Settings) (members : List (String × Json)) :
    toVariables settings (.object members) =
      load (.empty (!settings.caseSensitive)) (namedLeaves "" (leaves (.object members))) := by
  rw [toVariables, leaves]
  exact addMembers_eq_load "" _ members

theorem toVariables_of_plain (settings : Settings) {members : List (String × Json)}
    (plain : ∀ leaf ∈ leaves (.object members), ¬HoldsObject leaf.2) :
    toVariables settings (.object members) = .ok (flattened settings (.object members)) := by
  have entries : ∀ entry ∈ namedLeaves "" (leaves (.object members)), ¬HoldsObject entry.2 := by
    intro entry among
    obtain ⟨leaf, there, rfl⟩ := List.mem_map.1 among
    exact plain leaf there
  have key : ∀ leaf : List String × Json,
      (Variables.empty (!settings.caseSensitive)).key (nameFrom "" leaf.1) =
        leafKey settings leaf := by
    intro leaf
    rw [nameFrom_top, leafKey, Variables.key, Variables.empty, Bool.not_not]
  rw [toVariables_object, load_of_plain entries, foldl_set, namedLeaves, List.map_map]
  simp only [Function.comp_def, key]
  rfl

end Loading

section Places

/-- One document is another or stands inside it, in objects and arrays to any depth. -/
inductive Within (part : Json) : Json → Prop
  | self : Within part part
  | member {key : String} {document : Json} {members : List (String × Json)}
      (among : (key, document) ∈ members) (inner : Within part document) :
      Within part (.object members)
  | item {items : List Json} {item : Json} (among : item ∈ items) (inner : Within part item) :
      Within part (.array items)

/-- Some array in the document has an object among its items. -/
def HasObjectInArray (document : Json) : Prop :=
  ∃ items members, Within (.array items) document ∧ Json.object members ∈ items

theorem Within.trans {part middle whole : Json} (inner : Within part middle)
    (outer : Within middle whole) : Within part whole := by
  induction outer with
  | self => exact inner
  | member among _ further => exact .member among further
  | item among _ further => exact .item among further

theorem leaves_of_not_object {document : Json} (plain : ∀ members, document ≠ .object members) :
    document.leaves = [([], document)] := by
  cases document with
  | object members => exact absurd rfl (plain members)
  | _ => rfl

mutual

/-- A leaf stands inside its document and is no object. -/
theorem within_of_mem_leaves : (document : Json) → ∀ leaf ∈ document.leaves,
    Within leaf.2 document ∧ ∀ members, leaf.2 ≠ .object members
  | .object members => by
    intro leaf among
    rw [leaves] at among
    obtain ⟨member, there, inner, plain⟩ := within_of_mem_memberLeaves members leaf among
    exact ⟨.member there inner, plain⟩
  | .null => by simp [leaves, Within.self]
  | .boolean _ => by simp [leaves, Within.self]
  | .number _ => by simp [leaves, Within.self]
  | .text _ => by simp [leaves, Within.self]
  | .array _ => by simp [leaves, Within.self]

theorem within_of_mem_memberLeaves : (members : List (String × Json)) →
    ∀ leaf ∈ memberLeaves members, ∃ member ∈ members,
      Within leaf.2 member.2 ∧ ∀ members, leaf.2 ≠ .object members
  | [] => by simp [memberLeaves]
  | (key, document) :: rest => by
    intro leaf among
    rw [memberLeaves, List.mem_append] at among
    rcases among with here | later
    · obtain ⟨inner, there, rfl⟩ := List.mem_map.1 here
      exact ⟨_, List.mem_cons_self, within_of_mem_leaves document inner there⟩
    · obtain ⟨member, there, found⟩ := within_of_mem_memberLeaves rest leaf later
      exact ⟨member, List.mem_cons_of_mem _ there, found⟩

end

theorem mem_memberLeaves {members : List (String × Json)} {key : String} {document : Json}
    (among : (key, document) ∈ members) {leaf : List String × Json}
    (inner : leaf ∈ document.leaves) : (key :: leaf.1, leaf.2) ∈ memberLeaves members := by
  induction members with
  | nil => cases among
  | cons member rest others =>
    rw [memberLeaves, List.mem_append]
    rcases List.mem_cons.1 among with rfl | later
    · exact .inl (List.mem_map.2 ⟨leaf, inner, rfl⟩)
    · exact .inr (others later)

theorem HoldsObject.hasObjectInArray {document : Json} (holds : HoldsObject document) :
    (∃ members, document = .object members) ∨ HasObjectInArray document := by
  induction holds with
  | object members => exact .inl ⟨members, rfl⟩
  | item among _ further =>
    rcases further with ⟨members, rfl⟩ | ⟨items, members, inner, there⟩
    · exact .inr ⟨_, members, .self, among⟩
    · exact .inr ⟨items, members, .item among inner, there⟩

theorem Within.exists_leaf {items : List Json} {members : List (String × Json)} {document : Json}
    (inner : Within (.array items) document) (there : Json.object members ∈ items) :
    ∃ leaf ∈ document.leaves, HoldsObject leaf.2 := by
  induction inner with
  | self => exact ⟨_, List.mem_cons_self, .item there (.object members)⟩
  | member among _ further =>
    obtain ⟨leaf, found, holds⟩ := further
    exact ⟨_, mem_memberLeaves among found, holds⟩
  | @item items item among _ further =>
    refine ⟨_, List.mem_cons_self, .item among ?_⟩
    obtain ⟨leaf, found, holds⟩ := further
    by_cases group : ∃ members, item = .object members
    · obtain ⟨members, rfl⟩ := group
      exact .object members
    · rw [leaves_of_not_object fun members same => group ⟨members, same⟩] at found
      rwa [List.mem_singleton.1 found] at holds

/-- An array somewhere in a document holds an object exactly where one of the leaves does. -/
theorem hasObjectInArray_iff (document : Json) :
    HasObjectInArray document ↔ ∃ leaf ∈ document.leaves, HoldsObject leaf.2 := by
  constructor
  · rintro ⟨items, members, inner, there⟩
    exact inner.exists_leaf there
  · rintro ⟨leaf, among, holds⟩
    obtain ⟨outer, plain⟩ := within_of_mem_leaves document leaf among
    rcases holds.hasObjectInArray with ⟨members, same⟩ | ⟨items, members, inner, there⟩
    · exact absurd same (plain members)
    · exact ⟨items, members, inner.trans outer, there⟩

end Places

section Outcome

theorem path_of_mem_memberLeaves {members : List (String × Json)} {leaf : List String × Json}
    (among : leaf ∈ memberLeaves members) :
    ∃ member ∈ members, ∃ path, leaf.1 = member.1 :: path := by
  induction members with
  | nil => cases among
  | cons member rest others =>
    rw [memberLeaves, List.mem_append] at among
    rcases among with here | later
    · obtain ⟨inner, -, rfl⟩ := List.mem_map.1 here
      exact ⟨member, List.mem_cons_self, inner.1, rfl⟩
    · obtain ⟨other, there, path⟩ := others later
      exact ⟨other, List.mem_cons_of_mem _ there, path⟩

theorem memberLeaves_sorted {members : List (String × Json)}
    (sorted : members.Pairwise fun member later => member.1 < later.1)
    (inner : ∀ member ∈ members, member.2.leaves.Pairwise fun leaf later => leaf.1 < later.1) :
    (memberLeaves members).Pairwise fun leaf later => leaf.1 < later.1 := by
  induction members with
  | nil => exact .nil
  | cons member rest others =>
    obtain ⟨above, below⟩ := List.pairwise_cons.1 sorted
    obtain ⟨here, later⟩ := List.forall_mem_cons.1 inner
    rw [memberLeaves, List.pairwise_append]
    refine ⟨?_, others below later, ?_⟩
    · rw [List.pairwise_map]
      exact here.imp fun less => List.cons_lt_cons_iff.2 (.inr ⟨rfl, less⟩)
    · intro leaf among other behind
      obtain ⟨inside, -, rfl⟩ := List.mem_map.1 among
      obtain ⟨next, there, path, same⟩ := path_of_mem_memberLeaves behind
      rw [same]
      exact List.cons_lt_cons_iff.2 (.inl (above next there))

/-- With the members in the order of their keys, the leaves come in the order of their keys, where
the first key that differs decides. -/
theorem Ordered.leaves_sorted {document : Json} (ordered : document.Ordered) :
    document.leaves.Pairwise fun leaf later => leaf.1 < later.1 := by
  induction ordered with
  | object sorted _ inner => exact memberLeaves_sorted sorted inner
  | _ => exact List.pairwise_singleton _ _

/-- The leaf has the name, and no leaf behind it has. -/
def IsLast (settings : Settings) (document : Json) (name : String) (leaf : List String × Json) :
    Prop :=
  ∃ before after, document.leaves = before ++ leaf :: after ∧ leafKey settings leaf = name ∧
    ∀ later ∈ after, leafKey settings later ≠ name

theorem IsLast.mem {settings : Settings} {document : Json} {name : String}
    {leaf : List String × Json} (last : IsLast settings document name leaf) :
    leaf ∈ document.leaves := by
  obtain ⟨before, after, all, -⟩ := last
  simp [all]

/-- The variables of a document are its leaves: under the name of each leaf there is the value of
the last leaf with that name, and there are no other variables. -/
structure Flattened (settings : Settings) (document : Json) (vars : Variables) : Prop where
  folds : vars.folds = !settings.caseSensitive
  names : ∀ name, name ∈ vars.entries.names ↔
    ∃ leaf ∈ document.leaves, leafKey settings leaf = name
  bound : ∀ name value, vars.entries.get? name = some value ↔
    ∃ leaf, IsLast settings document name leaf ∧ leaf.2.toValue = .ok value
  distinct : (document.leaves.map (leafKey settings)).Nodup →
    vars.size = document.leaves.length ∧
    ∀ leaf ∈ document.leaves, leaf.2.toValue = .ok (vars.get (leafName leaf.1))

theorem get?_flattened (settings : Settings) (document : Json) (name : String) (value : Value) :
    (flattened settings document).entries.get? name = some value ↔
      ∃ leaf, IsLast settings document name leaf ∧ leaf.2.storedValue = value := by
  rw [flattened, Registry.get?_ofList, List.lookup_eq_some_iff]
  constructor
  · rintro ⟨after, before, split, last⟩
    rw [List.reverse_eq_iff, List.reverse_append, List.reverse_cons, List.append_assoc,
      List.singleton_append, List.map_eq_append_iff] at split
    obtain ⟨front, back, all, -, split⟩ := split
    obtain ⟨leaf, rest, rfl, here, behind⟩ := List.map_eq_cons_iff.1 split
    cases here
    refine ⟨leaf, ⟨front, rest, all, rfl, fun later among => ?_⟩, rfl⟩
    have member : (leafKey settings later, later.2.storedValue) ∈ after := by
      rw [← List.mem_reverse, ← behind]
      exact List.mem_map_of_mem among
    exact Ne.symm (bne_iff_ne.1 (last _ member))
  · rintro ⟨leaf, ⟨before, after, all, rfl, last⟩, rfl⟩
    refine ⟨(after.map fun leaf => (leafKey settings leaf, leaf.2.storedValue)).reverse,
      (before.map fun leaf => (leafKey settings leaf, leaf.2.storedValue)).reverse, ?_, ?_⟩
    · rw [all]
      simp
    · intro entry among
      obtain ⟨later, there, rfl⟩ := List.mem_map.1 (List.mem_reverse.1 among)
      exact bne_iff_ne.2 (Ne.symm (last later there))

theorem mem_names_flattened (settings : Settings) (document : Json) (name : String) :
    name ∈ (flattened settings document).entries.names ↔
      ∃ leaf ∈ document.leaves, leafKey settings leaf = name := by
  rw [← not_iff_not, ← Registry.get?_eq_none_iff, flattened, Registry.get?_ofList,
    List.lookup_eq_none_iff]
  simp only [List.mem_reverse, List.forall_mem_map, bne_iff_ne, not_exists, not_and]
  exact forall₂_congr fun leaf _ => ne_comm

/-- Without objects in arrays the variables are those of the leaves. -/
theorem flattened_spec (settings : Settings) {document : Json}
    (plain : ∀ leaf ∈ document.leaves, ¬HoldsObject leaf.2) :
    Flattened settings document (flattened settings document) := by
  have converts : ∀ leaf ∈ document.leaves, leaf.2.toValue = .ok leaf.2.storedValue :=
    fun leaf among => valueAt_of_plain (plain leaf among) "$"
  have bound : ∀ name value, (flattened settings document).entries.get? name = some value ↔
      ∃ leaf, IsLast settings document name leaf ∧ leaf.2.toValue = .ok value := by
    intro name value
    rw [get?_flattened]
    refine exists_congr fun leaf => and_congr_right fun last => ?_
    rw [converts leaf last.mem, Except.ok.injEq]
  refine ⟨rfl, mem_names_flattened settings document, bound, fun distinct => ⟨?_, ?_⟩⟩
  · have kept : ((document.leaves.map fun leaf =>
        (leafKey settings leaf, leaf.2.storedValue)).map Prod.fst).Nodup := by
      rwa [List.map_map]
    rw [Variables.size, Registry.size, flattened, Registry.entries_ofList kept, List.length_map]
  · intro leaf among
    obtain ⟨before, after, all⟩ := List.append_of_mem among
    have last : ∀ later ∈ after, leafKey settings later ≠ leafKey settings leaf := by
      rw [all, List.map_append, List.map_cons, List.nodup_append, List.nodup_cons] at distinct
      intro later there same
      exact distinct.2.1.1 (same ▸ List.mem_map_of_mem there)
    have found := (bound _ _).2 ⟨leaf, ⟨before, after, all, rfl, last⟩, converts leaf among⟩
    have key : (flattened settings document).key (leafName leaf.1) = leafKey settings leaf := by
      rw [Variables.key, flattened, leafKey, Bool.not_not]
    rw [Variables.get, key, found, Option.getD_some]
    exact converts leaf among

end Outcome

/-- Loading variables keeps every leaf of a document, to any depth. It fails exactly where some
array has an object among its items. Otherwise the variables are the leaves under their names, the
last leaf of a name counting, and different names are all kept. Where the objects have their members
in the order of their keys, the leaves are taken in the order of the keys on their way. -/
theorem flattening_exact (settings : Settings) (members : List (String × Json)) :
    ((∃ path, toVariables settings (.object members) = .error (.unsupportedObject path)) ↔
      HasObjectInArray (.object members)) ∧
    (¬HasObjectInArray (.object members) →
      ∃ vars, toVariables settings (.object members) = .ok vars ∧
        Flattened settings (.object members) vars) ∧
    (Ordered (.object members) →
      (leaves (.object members)).Pairwise fun leaf later => leaf.1 < later.1) := by
  have plain : ¬HasObjectInArray (.object members) →
      ∀ leaf ∈ leaves (.object members), ¬HoldsObject leaf.2 := by
    intro free leaf among holds
    exact free ((hasObjectInArray_iff _).2 ⟨leaf, among, holds⟩)
  refine ⟨⟨?_, ?_⟩, fun free => ?_, Ordered.leaves_sorted⟩
  · rintro ⟨path, failed⟩
    by_contra free
    rw [toVariables_of_plain settings (plain free)] at failed
    cases failed
  · intro holds
    obtain ⟨leaf, among, inner⟩ := (hasObjectInArray_iff _).1 holds
    rw [toVariables_object]
    exact load_of_holdsObject ⟨_, List.mem_map_of_mem among, inner⟩ _
  · exact ⟨_, toVariables_of_plain settings (plain free), flattened_spec settings (plain free)⟩

/-- A document with a group without a name, a group without members, and two leaves whose names
differ only in case where case does not count: of these the one of the later key stays, though it is
written first. -/
theorem flattening_exact_colliding :
    let settings : Settings := { Settings.standard 0 with caseSensitive := false }
    let source :=
      "\x7b\"a.B\":\"new\",\"e\":\x7b\x7d,\"A\":\x7b\"b\":\"old\"\x7d,\"\":\x7b\"x\":[[\"y\"]]\x7d\x7d"
    let members : List (String × Json) :=
      [("", .object [("x", .array [.array [.text "y"]])]),
        ("A", .object [("b", .text "old")]), ("a.B", .text "new"), ("e", .object [])]
    parse? source = some (.object members) ∧ ¬HasObjectInArray (.object members) ∧
      ((leaves (.object members)).Pairwise fun leaf later => leaf.1 < later.1) ∧
      ∃ vars, toVariables settings (.object members) = .ok vars ∧
        vars.entries.get? "a.b" = some (.text "new") ∧
        ∀ name, name ∈ vars.entries.names ↔ name = "x" ∨ name = "a.b" := by
  intro settings source members
  have read : parse? source = some (.object members) := by
    set_option maxRecDepth 4096 in
    cbv
  have all : leaves (.object members) = [(["", "x"], .array [.array [.text "y"]]),
      (["A", "b"], .text "old"), (["a.B"], .text "new")] := rfl
  have keys : foldName false (leafName ["", "x"]) = "x" ∧
      foldName false (leafName ["A", "b"]) = "a.b" ∧ foldName false (leafName ["a.B"]) = "a.b" := by
    decide +kernel
  have free : ¬HasObjectInArray (.object members) := by
    rw [hasObjectInArray_iff, all]
    rintro ⟨leaf, among, holds⟩
    simp only [List.mem_cons, List.not_mem_nil, or_false] at among
    rcases among with rfl | rfl | rfl
    · simp only [holdsObject_array_iff, List.mem_singleton, exists_eq_left] at holds
      cases holds
    · cases holds
    · cases holds
  obtain ⟨-, loads, sorted⟩ := flattening_exact settings members
  obtain ⟨vars, loaded, spec⟩ := loads free
  refine ⟨read, free, sorted (ordered_parse? read), vars, loaded, ?_, fun name => ?_⟩
  · exact (spec.bound _ _).2 ⟨_, ⟨[_, _], [], all, keys.2.2, by simp⟩, rfl⟩
  · rw [spec.names, all]
    simp only [List.mem_cons, List.not_mem_nil, or_false, exists_eq_or_imp, exists_eq_left, leafKey,
      settings, keys, or_self]
    exact or_congr eq_comm eq_comm

end Json
end RuleScript
