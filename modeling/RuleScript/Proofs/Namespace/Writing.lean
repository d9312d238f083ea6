import RuleScript.Proofs.Namespace.Tidy

/-!
Writing a variable, and what is there afterwards. A script writes to the innermost level, under the
spelling that the name was resolved to before. Every write sets one entry of that level to a whole
value (`Namespace.writeAt?_eq_set`, `Namespace.innermost_set`), and the entry is one that the name
can mean (`Namespace.means_key_resolveName`).
-/
namespace RuleScript

/-- A name that is bound keeps its place among the names, and one that is not goes to the end. -/
theorem Registry.names_alter {α : Type} (registry : Registry α) (name : String)
    (change : Option α → α) :
    (registry.alter name change).names =
      if name ∈ registry.names then registry.names else registry.names ++ [name] := by
  change (alterEntries name change registry.entries).map Prod.fst =
    if name ∈ registry.entries.map Prod.fst then registry.entries.map Prod.fst
    else registry.entries.map Prod.fst ++ [name]
  induction registry.entries with
  | nil => simp [alterEntries]
  | cons head tail others =>
    obtain ⟨first, old⟩ := head
    unfold alterEntries
    by_cases same : first = name
    · simp [same]
    · have apart : name ≠ first := Ne.symm same
      simp only [if_neg same, List.map_cons, others, List.mem_cons, apart, false_or]
      split <;> simp

theorem Text.lower_foldName (caseSensitive : Bool) (name : String) :
    Text.lower (foldName caseSensitive name) = Text.lower name := by
  cases caseSensitive with
  | true => rfl
  | false => exact Text.lower_lower name

namespace Namespace

/-- The entries of the level that is written to. -/
def innermost : Namespace → Registry Value
  | .root store => store.entries
  | .frame own _ => own.entries

/-- The level that is written to keeps names in lower case. -/
def folds : Namespace → Bool
  | .root store => store.folds
  | .frame own _ => !own.caseSensitive

/-- The name under which the level that is written to keeps a variable. -/
def key (names : Namespace) (name : String) : String :=
  foldName (!names.folds) name

/-- An entry of the level that is written to is one that a name can mean: it has that name, or
differs from it in case where the script or the level does not tell case apart. -/
def means (caseSensitive : Bool) (names : Namespace) (name entry : String) : Bool :=
  sameName (caseSensitive && !names.folds) entry name

theorem frame_key (own : Frame) (parent : Namespace) (name : String) :
    (frame own parent).key name = own.key name := by
  unfold key folds Frame.key
  rw [Bool.not_not]

@[simp] theorem folds_set (names : Namespace) (name : String) (value : Value) :
    (names.set name value).folds = names.folds := by
  cases names with
  | root store => simp [set, folds, Store.set_eq]
  | frame own parent => rfl

@[simp] theorem key_set (names : Namespace) (name other : String) (value : Value) :
    (names.set name value).key other = names.key other := by
  simp [key]

theorem innermost_set (names : Namespace) (name : String) (value : Value) :
    (names.set name value).innermost = names.innermost.insert (names.key name) value := by
  cases names with
  | root store =>
    simp only [set, innermost, Store.set_eq, Store.entries_alter]
    rfl
  | frame own parent =>
    rw [frame_key]
    rfl

/-- What the innermost level has for a name is what the name reads as. -/
theorem read_of_innermost {names : Namespace} {name : String} {value : Value}
    (own : names.innermost.get? (names.key name) = some value) (isLocal : Bool) :
    names.read isLocal name = value := by
  cases names with
  | root store =>
    have there : store.get name = value := by
      rw [Store.get_eq]
      exact congrArg (Option.getD · .null) own
    cases isLocal <;> exact there
  | frame own' parent =>
    rw [frame_key] at own
    have there : own'.get? name = some value := own
    cases isLocal with
    | true => simp [read, getLocal, there]
    | false => simp [read, get, there]

theorem contains_set (names : Namespace) (name other : String) (value : Value) :
    (names.set name value).contains other =
      (decide (names.key other = names.key name) || names.contains other) := by
  cases names with
  | root store =>
    simp only [set, contains, Store.contains_eq, Store.set_eq, Store.key_alter,
      Store.entries_alter, Registry.get?_alter]
    change _ = (decide (store.key other = store.key name) || _)
    split <;> simp_all
  | frame own parent =>
    rw [frame_key, frame_key]
    have owned : (own.set name value).owns other =
        (decide (own.key other = own.key name) || own.owns other) := by
      change ((own.entries.insert (own.key name) value).get? (own.key other)).isSome = _
      rw [Registry.get?_insert]
      split <;> simp_all [Frame.owns, Registry.contains]
    simp only [set, contains, owned, Bool.or_assoc]
    rfl

/-- What was written under a spelling is there under that spelling. -/
theorem read_set (names : Namespace) (isLocal : Bool) (name : String) (value : Value) :
    (names.set name value).read isLocal name = value := by
  apply read_of_innermost
  rw [innermost_set, key_set, Registry.get?_insert, if_pos rfl]

/-- An element is written into the value that is read under the same name. -/
theorem writeElement_eq_set (names : Namespace) (isLocal : Bool) (name : String) (index : Nat)
    (value : Value) :
    names.writeElement isLocal name index value =
      names.set name ((names.read isLocal name).withElement index value) := by
  cases isLocal with
  | true => rfl
  | false =>
    cases names with
    | root store =>
      simp only [writeElement, read, setElement, set, get, Bool.false_eq_true, if_false,
        Store.set_withElement]
    | frame own parent => rfl

/-- Every write is one of the whole value, unless the index addresses no element. -/
theorem writeAt?_eq_set (names : Namespace) (isLocal : Bool) (name : String) (value : Value)
    (index : Option (Option Nat)) :
    names.writeAt? isLocal name value index =
      match index with
      | none => some (names.set name value)
      | some none => none
      | some (some i) => some (names.set name ((names.read isLocal name).withElement i value)) := by
  match index with
  | none => rfl
  | some none => rfl
  | some (some i) => exact congrArg some (names.writeElement_eq_set isLocal name i value)

/-- The key of the spelling that a name is resolved to is one that the name can mean. -/
theorem means_key_resolveName (caseSensitive : Bool) (names : Namespace) (name : String) :
    names.means caseSensitive name (names.key (names.resolveName caseSensitive name)) = true := by
  unfold means key
  rw [sameName_iff]
  cases caseSensitive with
  | true =>
    rw [Bool.true_and, foldName_foldName]
    rfl
  | false =>
    rw [Bool.false_and, foldName_false, foldName_false, Text.lower_foldName]
    exact names.foldName_resolveName false name

end Namespace
end RuleScript
