import RuleScript.Proofs.Namespace.Keys

/-!
What a name means to a running script. The machine first resolves a name to a spelling and then
reads or writes under that spelling, and each level resolves it anew. As long as every frame keeps
its names as they are looked up (`Namespace.Regular`), all of this comes to a search outward: each
frame is asked for the name as it is looked up, and the store has one slot for it
(`Namespace.seen?`).
-/
namespace RuleScript

theorem Registry.mem_names_of_get? {α : Type} {registry : Registry α} {name : String} {value : α}
    (bound : registry.get? name = some value) : name ∈ registry.names := by
  unfold get? at bound
  obtain ⟨before, after, split, -⟩ := List.lookup_eq_some_iff.1 bound
  rw [names, split]
  simp

theorem Registry.get?_eq_none_iff {α : Type} {registry : Registry α} {name : String} :
    registry.get? name = none ↔ name ∉ registry.names := by
  unfold get? names
  rw [List.lookup_eq_none_iff]
  simp only [List.mem_map, not_exists, not_and, bne_iff_ne, ne_eq]
  exact forall₂_congr fun entry _ => not_congr eq_comm

namespace Frame

/-- The frame was opened for a run that matches names in the given way, and keeps its names as they
are looked up. -/
structure Regular (caseSensitive : Bool) (own : Frame) : Prop where
  sensitive : own.caseSensitive = caseSensitive
  folded : ∀ name ∈ own.entries.names, foldName caseSensitive name = name

theorem regular_empty (caseSensitive : Bool) : (empty caseSensitive).Regular caseSensitive :=
  ⟨rfl, fun _ among => by cases among⟩

namespace Regular

variable {caseSensitive : Bool} {own : Frame}

theorem key (regular : own.Regular caseSensitive) (name : String) :
    own.key name = foldName caseSensitive name := by
  unfold Frame.key
  rw [regular.sensitive]

theorem get? (regular : own.Regular caseSensitive) (name : String) :
    own.get? name = own.entries.get? (foldName caseSensitive name) := by
  unfold Frame.get?
  rw [regular.key]

theorem set (regular : own.Regular caseSensitive) (name : String) (value : Value) :
    (own.set name value).Regular caseSensitive := by
  refine ⟨regular.sensitive, fun other among => ?_⟩
  rcases Registry.mem_names_alterEntries among with rfl | before
  · rw [regular.key, foldName_foldName]
  · exact regular.folded other before

/-- Names that are looked up alike are written alike. -/
theorem set_congr (regular : own.Regular caseSensitive) {name name' : String}
    (alike : foldName caseSensitive name = foldName caseSensitive name') (value : Value) :
    own.set name value = own.set name' value := by
  unfold Frame.set
  rw [regular.key, regular.key, alike]

theorem bind (regular : own.Regular caseSensitive) (params : List String) (values : List Value) :
    (own.bind params values).Regular caseSensitive := by
  unfold Frame.bind
  induction params.zip values generalizing own with
  | nil => exact regular
  | cons pair rest others =>
    refine others ?_
    dsimp only
    split
    · exact regular
    · exact regular.set _ _

/-- A name that a frame does not have matches none of its names. -/
theorem find?_names (regular : own.Regular false) {name : String}
    (unbound : own.entries.get? (Text.lower name) = none) :
    own.entries.names.find? (fun entry => Text.lower entry == Text.lower name) = none := by
  rw [List.find?_eq_none]
  intro entry among same
  have lower : Text.lower entry = entry := regular.folded entry among
  rw [lower, beq_iff_eq] at same
  exact Registry.get?_eq_none_iff.1 unbound (same ▸ among)

end Regular
end Frame

theorem resolveAmong_of_has {has : String → Bool} {name : String} (present : has name = true)
    (names : List String) (caseSensitive : Bool) :
    resolveAmong has names caseSensitive name = name := by
  rw [resolveAmong, present, Bool.or_true, if_pos rfl]

theorem resolveAmong_of_lacks {has : String → Bool} {name : String} (absent : has name = false)
    (names : List String) :
    resolveAmong has names false name =
      (names.find? fun entry => Text.lower entry == Text.lower name).getD name := by
  rw [resolveAmong, absent, Bool.or_false, if_neg Bool.false_ne_true]

/-- The name that was found for another stands for itself. -/
theorem resolveAmong_of_find? {has : String → Bool} {names : List String} {name entry : String}
    (found : names.find? (fun entry => Text.lower entry == Text.lower name) = some entry) :
    resolveAmong has names false entry = entry := by
  cases present : has entry with
  | true => exact resolveAmong_of_has present names false
  | false =>
    have matched := List.find?_some found
    rw [resolveAmong_of_lacks present, beq_iff_eq.1 matched, found]
    rfl

namespace Store

/-- What the store has for a name that a script uses. -/
def slot? (caseSensitive : Bool) (store : Store) (name : String) : Option Value :=
  store.entries.get? (store.key ((Namespace.root store).resolveName caseSensitive name))

/-- The store after a script has written a name. -/
def change (caseSensitive : Bool) (store : Store) (name : String)
    (change : Option Value → Value) : Store :=
  store.alter ((Namespace.root store).resolveName caseSensitive name) change

end Store

/-- The value, or the element that an index addresses. -/
def Value.part (value : Value) : Option (Option Nat) → Value
  | none => value
  | some none => .null
  | some (some i) => value.element i

namespace Namespace

/-- All frames keep their names as they are looked up. -/
inductive Regular (caseSensitive : Bool) : Namespace → Prop
  | root {store : Store} : Regular caseSensitive (.root store)
  | frame {own : Frame} {parent : Namespace} (innermost : own.Regular caseSensitive)
      (others : Regular caseSensitive parent) : Regular caseSensitive (.frame own parent)

/-- The search for a name outward from the innermost frame. -/
def search? (caseSensitive : Bool) : Namespace → String → Option Value
  | .root store, name => store.slot? caseSensitive name
  | .frame own parent, name =>
    (own.entries.get? (foldName caseSensitive name)).or (parent.search? caseSensitive name)

/-- The variable that a reference sees, which for a local one is on the innermost level. -/
def seen? (caseSensitive : Bool) (names : Namespace) (isLocal : Bool) (name : String) :
    Option Value :=
  match names, isLocal with
  | .frame own _, true => own.entries.get? (foldName caseSensitive name)
  | names, _ => names.search? caseSensitive name

/-- The namespace after a variable, or one of its elements, was written. -/
def put (caseSensitive : Bool) (names : Namespace) (isLocal : Bool) (name : String) (value : Value)
    (index : Option Nat) : Namespace :=
  match names with
  | .root store => .root (store.change caseSensitive name (value.written index))
  | .frame own parent =>
    .frame (own.set name
      (value.written index ((Namespace.frame own parent).seen? caseSensitive isLocal name))) parent

variable {caseSensitive : Bool}

/-- Where the frame does not have a name, its caller resolves the name as if it was asked for it
itself. -/
theorem resolveName_parent {own : Frame} (regular : own.Regular caseSensitive)
    (parent : Namespace) {name : String}
    (unbound : own.entries.get? (foldName caseSensitive name) = none) :
    parent.resolveName caseSensitive
        ((Namespace.frame own parent).resolveName caseSensitive name) =
      parent.resolveName caseSensitive name := by
  cases caseSensitive with
  | true => rfl
  | false =>
    unfold resolveName
    cases there : (Namespace.frame own parent).contains name with
    | true => rw [resolveAmong_of_has there]
    | false =>
      have outside : parent.contains (parent.resolveName false name) = false := by
        simp only [contains, regular.sensitive, Bool.or_eq_false_iff] at there
        exact there.2
      have absent : parent.contains name = false := by
        cases present : parent.contains name with
        | false => rfl
        | true =>
          have itself : parent.resolveName false name = name :=
            resolveAmong_of_has present parent.names false
          rwa [itself, present] at outside
      rw [resolveAmong_of_lacks there, names, List.find?_append, regular.find?_names unbound,
        Option.none_or, resolveAmong_of_lacks absent]
      cases found : parent.names.find? fun entry => Text.lower entry == Text.lower name with
      | some entry => exact resolveAmong_of_find? found
      | none =>
        rw [Option.getD_none, resolveAmong_of_lacks absent, found]
        rfl

/-- Reading the spelling that a name is resolved to is the search for the name. -/
theorem get_resolveName {names : Namespace} (regular : names.Regular caseSensitive)
    (name : String) :
    names.get (names.resolveName caseSensitive name) =
      (names.search? caseSensitive name).getD .null := by
  induction regular with
  | root => exact Store.get_eq _ _
  | @frame own parent innermost _ outward =>
    unfold get search?
    rw [innermost.get?, foldName_resolveName, innermost.sensitive]
    cases bound : own.entries.get? (foldName caseSensitive name) with
    | some value => rfl
    | none =>
      rw [Option.none_or, ← outward, ← resolveName_parent innermost parent bound]

theorem getLocal_resolveName {names : Namespace} (regular : names.Regular caseSensitive)
    (name : String) :
    names.getLocal (names.resolveName caseSensitive name) =
      (names.seen? caseSensitive true name).getD .null := by
  cases regular with
  | root => exact Store.get_eq _ _
  | frame innermost _ =>
    dsimp only [getLocal, seen?]
    rw [innermost.get?, foldName_resolveName]

theorem read_resolveName {names : Namespace} (regular : names.Regular caseSensitive)
    (isLocal : Bool) (name : String) :
    names.read isLocal (names.resolveName caseSensitive name) =
      (names.seen? caseSensitive isLocal name).getD .null := by
  cases isLocal with
  | true => exact getLocal_resolveName regular name
  | false =>
    refine (get_resolveName regular name).trans ?_
    cases names <;> rfl

theorem readElement_eq (names : Namespace) (isLocal : Bool) (name : String) (index : Nat) :
    names.readElement isLocal name index = (names.read isLocal name).element index := by
  cases isLocal with
  | true => rfl
  | false =>
    cases names with
    | root store => exact store.getElement_eq name index
    | frame own parent => rfl

theorem readAt_eq (names : Namespace) (isLocal : Bool) (name : String)
    (index : Option (Option Nat)) :
    names.readAt isLocal name index = (names.read isLocal name).part index := by
  match index with
  | none => rfl
  | some none => rfl
  | some (some i) => exact names.readElement_eq isLocal name i

theorem readAt_resolveName {names : Namespace} (regular : names.Regular caseSensitive)
    (isLocal : Bool) (name : String) (index : Option (Option Nat)) :
    names.readAt isLocal (names.resolveName caseSensitive name) index =
      ((names.seen? caseSensitive isLocal name).getD .null).part index := by
  rw [readAt_eq, read_resolveName regular]

/-- An element is written into the value that the reference sees. -/
theorem writeElement_frame {own : Frame} {parent : Namespace}
    (regular : (Namespace.frame own parent).Regular caseSensitive) (isLocal : Bool) (name : String)
    (value : Value) (index : Nat) :
    (Namespace.frame own parent).writeElement isLocal
        ((Namespace.frame own parent).resolveName caseSensitive name) index value =
      (Namespace.frame own parent).put caseSensitive isLocal name value (some index) := by
  have read := read_resolveName regular isLocal name
  obtain ⟨innermost, -⟩ : own.Regular caseSensitive ∧ parent.Regular caseSensitive := by
    cases regular with
    | frame innermost others => exact ⟨innermost, others⟩
  dsimp only [put]
  rw [innermost.set_congr (foldName_resolveName (.frame own parent) caseSensitive name).symm]
  unfold Namespace.read at read
  cases isLocal with
  | true =>
    simp only [if_true] at read
    simp only [writeElement, if_true, read, set, Value.written]
  | false =>
    simp only [Bool.false_eq_true, if_false] at read
    simp only [writeElement, Bool.false_eq_true, if_false, setElement, read, set, Value.written]

/-- Writing under the spelling that a name is resolved to; there is nothing to write at an index
without an element. -/
theorem writeAt?_resolveName {names : Namespace} (regular : names.Regular caseSensitive)
    (isLocal : Bool) (name : String) (value : Value) (index : Option (Option Nat)) :
    names.writeAt? isLocal (names.resolveName caseSensitive name) value index =
      match index with
      | none => some (names.put caseSensitive isLocal name value none)
      | some none => none
      | some (some i) => some (names.put caseSensitive isLocal name value (some i)) := by
  cases names with
  | root store => exact writeAt?_root store isLocal _ value index
  | frame own parent =>
    match index with
    | none =>
      cases regular with
      | frame innermost _ =>
        dsimp only [put, writeAt?, set]
        rw [innermost.set_congr (foldName_resolveName (.frame own parent) caseSensitive name)]
        rfl
    | some none => rfl
    | some (some i) => exact congrArg some (writeElement_frame regular isLocal name value i)

/-- What was written is there under the spelling that the name had. -/
theorem readAt_put {names : Namespace} (regular : names.Regular caseSensitive) (isLocal : Bool)
    (name : String) (value : Value) (written : Option Nat) (index : Option (Option Nat)) :
    (names.put caseSensitive isLocal name value written).readAt isLocal
        (names.resolveName caseSensitive name) index =
      (value.written written (names.seen? caseSensitive isLocal name)).part index := by
  rw [readAt_eq]
  congr 1
  cases names with
  | root store =>
    have there : (store.change caseSensitive name (value.written written)).get
        ((Namespace.root store).resolveName caseSensitive name) =
          value.written written (store.slot? caseSensitive name) := by
      rw [Store.get_eq, Store.change, Store.key_alter, Store.entries_alter, Registry.get?_alter,
        if_pos rfl]
      rfl
    cases isLocal <;> exact there
  | frame own parent =>
    cases regular with
    | frame innermost _ =>
      have there : (own.set name
          (value.written written ((frame own parent).seen? caseSensitive isLocal name))).get?
            ((frame own parent).resolveName caseSensitive name) =
          some (value.written written ((frame own parent).seen? caseSensitive isLocal name)) := by
        rw [(innermost.set _ _).get?, foldName_resolveName, Frame.set, Registry.get?_insert,
          innermost.key, if_pos rfl]
      cases isLocal with
      | true => simp only [put, read, getLocal, there, if_true, Option.getD_some]
      | false => simp only [put, read, get, there, Bool.false_eq_true, if_false]

end Namespace
end RuleScript
