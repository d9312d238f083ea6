import RuleScript.Proofs.Text.Lowercase
import RuleScript.Run.Machine

/-!
What all stores have in common. A store is a registry, a rule for the key under which it keeps a
name, and a choice whether it lists its names; every way to write a variable alters one entry of the
registry. What is said of stores elsewhere is said in these terms.
-/
namespace RuleScript

/-- Changing a binding only depends on what the change makes of the binding that is there. -/
theorem Registry.alterEntries_congr {α : Type} {name : String} {change change' : Option α → α}
    {entries : List (String × α)}
    (same : change (entries.lookup name) = change' (entries.lookup name)) :
    alterEntries name change entries = alterEntries name change' entries := by
  induction entries with
  | nil =>
    rw [List.lookup_nil] at same
    rw [alterEntries, alterEntries, same]
  | cons head tail others =>
    obtain ⟨other, old⟩ := head
    rw [lookup_cons_name] at same
    unfold alterEntries
    by_cases bound : other = name
    · rw [if_pos bound.symm] at same
      rw [if_pos bound, if_pos bound, same]
    · rw [if_neg (Ne.symm bound)] at same
      rw [if_neg bound, if_neg bound, others same]

theorem Registry.alter_congr {α : Type} (registry : Registry α) {name : String}
    {change change' : Option α → α}
    (same : change (registry.get? name) = change' (registry.get? name)) :
    registry.alter name change = registry.alter name change' := by
  unfold alter
  congr 1
  exact alterEntries_congr same

/-- What writing a variable, or one of its elements, makes of what is there. -/
def Value.written (value : Value) : Option Nat → Option Value → Value
  | none, _ => value
  | some index, slot => (slot.getD .null).withElement index value

/-- Changing a slot in place makes of it what writing the element makes of the value. -/
theorem Variables.changeSlot_eq (index : Nat) (value : Value) :
    changeSlot index value = value.written (some index) := by
  funext slot
  change changeSlot index value slot = (slot.getD .null).withElement index value
  unfold changeSlot
  cases slot.getD .null <;> rfl

namespace Store

/-- The store keeps names in lower case. -/
def folds : Store → Bool
  | .standard vars => vars.folds
  | .host _ => false

/-- The store tells which names there are. -/
def lists : Store → Bool
  | .standard _ => true
  | .host store => store.listed

/-- The name under which the store keeps a variable. -/
def key (store : Store) (name : String) : String :=
  foldName (!store.folds) name

/-- The stores match and list names in the same way. -/
def SameKind : Store → Store → Prop
  | .standard vars, .standard vars' => vars.folds = vars'.folds
  | .host store, .host store' => store.listed = store'.listed
  | _, _ => False

/-- The store with one entry changed, or added where there is none. -/
def alter (store : Store) (name : String) (change : Option Value → Value) : Store :=
  match store with
  | .standard vars => .standard { vars with entries := vars.entries.alter (vars.key name) change }
  | .host store => .host { store with entries := store.entries.alter name change }

theorem key_of_exact {store : Store} (exact : store.folds = false) (name : String) :
    store.key name = name := by
  simp [key, exact]

theorem get_eq (store : Store) (name : String) :
    store.get name = (store.entries.get? (store.key name)).getD .null := by
  cases store <;> rfl

theorem contains_eq (store : Store) (name : String) :
    store.contains name = (store.entries.get? (store.key name)).isSome := by
  cases store <;> rfl

theorem getElement_eq (store : Store) (name : String) (index : Nat) :
    store.getElement name index = (store.get name).element index := by
  cases store with
  | host store => rfl
  | standard vars =>
    simp only [getElement, get, Variables.getElement, Variables.get]
    cases vars.entries.get? (vars.key name) with
    | none => rfl
    | some value => cases value <;> rfl

theorem names_eq (store : Store) :
    store.names = if store.lists then store.entries.names else [] := by
  cases store <;> rfl

theorem set_eq (store : Store) (name : String) (value : Value) :
    store.set name value = store.alter name (value.written none) := by
  cases store <;> rfl

theorem setElement_eq (store : Store) (name : String) (index : Nat) (value : Value) :
    store.setElement name index value = store.alter name (value.written (some index)) := by
  cases store with
  | standard vars => rw [setElement, Variables.setElement, Variables.changeSlot_eq, alter]
  | host store =>
    have same : store.entries.insert name ((store.get name).withElement index value) =
        store.entries.alter name (value.written (some index)) :=
      store.entries.alter_congr rfl
    simp only [setElement, alter, HostStore.set, same]

/-- Writing an element of the value as a whole is writing the element. -/
theorem set_withElement (store : Store) (name : String) (index : Nat) (value : Value) :
    store.set name ((store.get name).withElement index value) =
      store.setElement name index value := by
  cases store with
  | host store => rfl
  | standard vars =>
    have same : vars.entries.insert (vars.key name) ((vars.get name).withElement index value) =
        vars.entries.alter (vars.key name) (value.written (some index)) :=
      vars.entries.alter_congr rfl
    rw [setElement_eq]
    change standard { vars with entries := _ } = _
    rw [alter, ← same]
    rfl

@[simp] theorem folds_alter (store : Store) (name : String) (change : Option Value → Value) :
    (store.alter name change).folds = store.folds := by
  cases store <;> rfl

@[simp] theorem lists_alter (store : Store) (name : String) (change : Option Value → Value) :
    (store.alter name change).lists = store.lists := by
  cases store <;> rfl

@[simp] theorem key_alter (store : Store) (name other : String) (change : Option Value → Value) :
    (store.alter name change).key other = store.key other := by
  simp [key]

@[simp] theorem entries_alter (store : Store) (name : String) (change : Option Value → Value) :
    (store.alter name change).entries = store.entries.alter (store.key name) change := by
  cases store <;> rfl

namespace SameKind

variable {store store' : Store}

theorem folds (same : SameKind store store') : store.folds = store'.folds := by
  cases store <;> cases store' <;> first | exact same | cases same | rfl

theorem lists (same : SameKind store store') : store.lists = store'.lists := by
  cases store <;> cases store' <;> first | exact same | cases same | rfl

theorem key (same : SameKind store store') (name : String) : store.key name = store'.key name := by
  unfold Store.key
  rw [same.folds]

theorem alter (same : SameKind store store') (name name' : String)
    (change change' : Option Value → Value) :
    SameKind (store.alter name change) (store'.alter name' change') := by
  cases store <;> cases store' <;> exact same

end SameKind
end Store

theorem foldName_resolveAmong (has : String → Bool) (names : List String) (caseSensitive : Bool)
    (name : String) :
    foldName caseSensitive (resolveAmong has names caseSensitive name) =
      foldName caseSensitive name := by
  unfold resolveAmong
  split
  · rfl
  · next unresolved =>
    simp only [Bool.or_eq_true, not_or, Bool.not_eq_true] at unresolved
    rw [unresolved.1]
    cases found : names.find? fun entry => Text.lower entry == Text.lower name with
    | none => rfl
    | some entry =>
      have matched := List.find?_some found
      exact beq_iff_eq.1 matched

namespace Namespace

/-- The spelling that a name is resolved to is looked up as the name is. -/
@[simp] theorem foldName_resolveName (names : Namespace) (caseSensitive : Bool) (name : String) :
    foldName caseSensitive (names.resolveName caseSensitive name) = foldName caseSensitive name :=
  foldName_resolveAmong _ _ _ _

/-- On the store itself, writing alters one entry; there is nothing to write at an index without an
element. -/
theorem writeAt?_root (store : Store) (isLocal : Bool) (name : String) (value : Value)
    (index : Option (Option Nat)) :
    (Namespace.root store).writeAt? isLocal name value index =
      match index with
      | none => some (.root (store.alter name (value.written none)))
      | some none => none
      | some (some i) => some (.root (store.alter name (value.written (some i)))) := by
  match index with
  | none => simp only [writeAt?, set, Store.set_eq]
  | some none => rfl
  | some (some i) =>
    have whole : store.set name ((store.get name).withElement i value) =
        store.alter name (value.written (some i)) := by
      rw [Store.set_withElement, Store.setElement_eq]
    cases isLocal with
    | true => simp only [writeAt?, writeElement, getLocal, set, if_true, whole]
    | false =>
      simp only [writeAt?, writeElement, setElement, Store.setElement_eq, Bool.false_eq_true,
        if_false]

end Namespace
end RuleScript
