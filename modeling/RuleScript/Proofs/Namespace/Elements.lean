import Mathlib
import RuleScript.Proofs.Namespace.Writing

/-!
Elements in place, seen from outside. The standard store looks up and changes elements without
taking the array out. A container of the host has whole values only: it reads an element from a
copy, and writes one by writing the changed copy back. Whatever is asked of the two, and in whatever
order, they give the same replies, as long as the host matches names as the store does.
-/
namespace RuleScript

/-- What can be asked of a container. -/
inductive Operation
  | get (name : String)
  | getLocal (name : String)
  | contains (name : String)
  | getElement (name : String) (index : Nat)
  | names
  | set (name : String) (value : Value)
  | setElement (name : String) (index : Nat) (value : Value)

/-- What a container says to it. Names are listed in no order. -/
inductive Reply
  | done
  | value (value : Value)
  | truth (truth : Bool)
  | names (names : Multiset String)

/-- Asks one thing after the other. -/
def Operation.replies {σ : Type} (step : σ → Operation → σ × Reply) (state : σ) :
    List Operation → List Reply
  | [] => []
  | operation :: rest => (step state operation).2 :: replies step (step state operation).1 rest

def Variables.step (vars : Variables) : Operation → Variables × Reply
  | .get name => (vars, .value (vars.get name))
  | .getLocal name => (vars, .value (vars.get name))
  | .contains name => (vars, .truth (vars.contains name))
  | .getElement name index => (vars, .value (vars.getElement name index))
  | .names => (vars, .names vars.entries.names)
  | .set name value => (vars.set name value, .done)
  | .setElement name index value => (vars.setElement name index value, .done)

/-- A container of the host, with the four operations that a host implements. -/
structure Host (σ : Type) where
  get : σ → String → Value
  set : σ → String → Value → σ
  contains : σ → String → Bool
  names : σ → List String

namespace Host

variable {σ : Type}

/-- The other operations come from the four. -/
def step (host : Host σ) (state : σ) : Operation → σ × Reply
  | .get name => (state, .value (host.get state name))
  | .getLocal name => (state, .value (host.get state name))
  | .contains name => (state, .truth (host.contains state name))
  | .getElement name index => (state, .value ((host.get state name).element index))
  | .names => (state, .names (host.names state))
  | .set name value => (host.set state name value, .done)
  | .setElement name index value =>
    (host.set state name ((host.get state name).withElement index value), .done)

/-- The host keeps what is written under the key of the name, and nothing else changes. -/
structure Keyed (host : Host σ) (key : String → String) : Prop where
  get_set : ∀ state name value other, host.get (host.set state name value) other =
    if key other = key name then value else host.get state other
  contains_set : ∀ state name value other, host.contains (host.set state name value) other =
    (decide (key other = key name) || host.contains state other)
  names_set : ∀ state name value, (host.names (host.set state name value)).Perm
    (if host.contains state name then host.names state else host.names state ++ [key name])

/-- The host has what the store has. -/
structure Shows (host : Host σ) (state : σ) (vars : Variables) : Prop where
  get : ∀ name, host.get state name = vars.get name
  contains : ∀ name, host.contains state name = vars.contains name
  names : (host.names state).Perm vars.entries.names

end Host

namespace Registry

variable {α : Type}

theorem getD_insert (registry : Registry α) (name other : String) (value none : α) :
    ((registry.insert name value).get? other).getD none =
      if other = name then value else (registry.get? other).getD none := by
  rw [get?_insert]
  split <;> rfl

theorem contains_insert (registry : Registry α) (name other : String) (value : α) :
    (registry.insert name value).contains other =
      (decide (other = name) || registry.contains other) := by
  rw [contains, get?_insert]
  split <;> simp_all [contains]

theorem contains_iff (registry : Registry α) (name : String) :
    registry.contains name = true ↔ name ∈ registry.names := by
  rw [contains, Option.isSome_iff_ne_none, ne_eq, get?_eq_none_iff, not_not]

theorem names_insert (registry : Registry α) (name : String) (value : α) :
    (registry.insert name value).names =
      if registry.contains name then registry.names else registry.names ++ [name] := by
  simp only [contains_iff]
  exact registry.names_alter _ _

end Registry

namespace Variables

theorem get_set (vars : Variables) (name other : String) (value : Value) :
    (vars.set name value).get other =
      if vars.key other = vars.key name then value else vars.get other :=
  vars.entries.getD_insert _ _ _ _

theorem contains_set (vars : Variables) (name other : String) (value : Value) :
    (vars.set name value).contains other =
      (decide (vars.key other = vars.key name) || vars.contains other) :=
  vars.entries.contains_insert _ _ _

theorem names_set (vars : Variables) (name : String) (value : Value) :
    (vars.set name value).entries.names =
      if vars.contains name then vars.entries.names else vars.entries.names ++ [vars.key name] :=
  vars.entries.names_insert _ _

theorem getElement_eq (vars : Variables) (name : String) (index : Nat) :
    vars.getElement name index = (vars.get name).element index :=
  Store.getElement_eq (.standard vars) name index

/-- Changing the slot is writing the changed copy back: the slot is found under the same key, and a
variable that was not there goes to the same place. -/
theorem setElement_eq (vars : Variables) (name : String) (index : Nat) (value : Value) :
    vars.setElement name index value = vars.set name ((vars.get name).withElement index value) :=
  Store.standard.inj (Store.set_withElement (.standard vars) name index value).symm

end Variables

namespace Host

variable {host : Host σ} {state : σ} {vars : Variables}

/-- What is written to both, both have. -/
theorem Shows.set (same : host.Shows state vars) (keyed : host.Keyed vars.key) (name : String)
    (value : Value) : host.Shows (host.set state name value) (vars.set name value) := by
  refine ⟨fun other => ?_, fun other => ?_, ?_⟩
  · rw [keyed.get_set, same.get, Variables.get_set]
  · rw [keyed.contains_set, same.contains, Variables.contains_set]
  · rw [Variables.names_set, ← same.contains]
    refine (keyed.names_set state name value).trans ?_
    split
    · exact same.names
    · exact same.names.append_right _

/-- One operation gets the same reply from both, and both go on with the same content. -/
theorem Shows.step (same : host.Shows state vars) (keyed : host.Keyed vars.key)
    (operation : Operation) :
    (vars.step operation).2 = (host.step state operation).2 ∧
      (vars.step operation).1.folds = vars.folds ∧
      host.Shows (host.step state operation).1 (vars.step operation).1 := by
  cases operation with
  | get name => exact ⟨congrArg Reply.value (same.get name).symm, rfl, same⟩
  | getLocal name => exact ⟨congrArg Reply.value (same.get name).symm, rfl, same⟩
  | contains name => exact ⟨congrArg Reply.truth (same.contains name).symm, rfl, same⟩
  | getElement name index =>
    refine ⟨congrArg Reply.value ?_, rfl, same⟩
    rw [Variables.getElement_eq, same.get]
  | names => exact ⟨congrArg Reply.names (Multiset.coe_eq_coe.2 same.names.symm), rfl, same⟩
  | set name value => exact ⟨rfl, rfl, same.set keyed name value⟩
  | setElement name index value =>
    refine ⟨rfl, rfl, ?_⟩
    simp only [Variables.step, Host.step, Variables.setElement_eq, same.get]
    exact same.set keyed name _

theorem Shows.replies (same : host.Shows state vars) (keyed : host.Keyed vars.key)
    (operations : List Operation) :
    Operation.replies Variables.step vars operations =
      Operation.replies host.step state operations := by
  induction operations generalizing state vars with
  | nil => rfl
  | cons operation rest ih =>
    obtain ⟨reply, folds, next⟩ := same.step keyed operation
    have key : (vars.step operation).1.key = vars.key := by
      funext name
      rw [Variables.key, folds, Variables.key]
    rw [Operation.replies, Operation.replies, reply, ih next (by rwa [key])]

end Host

/-- A store of the host that lists its names and keeps them under keys. -/
def HostStore.under (key : String → String) :
    Host { store : HostStore // store.listed = true } where
  get store name := store.1.get (key name)
  set store name value := ⟨store.1.set (key name) value, store.2⟩
  contains store name := store.1.contains (key name)
  names store := store.1.names

theorem HostStore.under_keyed (key : String → String) : (HostStore.under key).Keyed key where
  get_set store name value other := store.1.entries.getD_insert _ _ _ _
  contains_set store name value other := store.1.entries.contains_insert _ _ _
  names_set store name value := by
    have listed : ∀ store : { store : HostStore // store.listed = true },
        (HostStore.under key).names store = store.1.entries.names := fun store => if_pos store.2
    rw [listed, listed]
    exact List.Perm.of_eq (store.1.entries.names_insert _ _)

theorem HostStore.under_shows (vars : Variables) :
    (HostStore.under vars.key).Shows ⟨⟨vars.entries, true⟩, rfl⟩ vars :=
  ⟨fun _ => rfl, fun _ => rfl, List.Perm.refl _⟩

/-- The operations on elements in place are those that go through whole values. So no sequence of
operations tells the standard store, plain or folding, from a container of the host that implements
the whole-value operations only, matches names as the store does and has what the store has. -/
theorem Variables.in_place_refines_plain (vars : Variables) :
    (∀ name index, vars.getElement name index = (vars.get name).element index) ∧
    (∀ name index value,
      vars.setElement name index value = vars.set name ((vars.get name).withElement index value)) ∧
    ∀ {σ : Type} (host : Host σ) (state : σ), host.Keyed vars.key → host.Shows state vars →
      ∀ operations : List Operation,
        Operation.replies Variables.step vars operations =
          Operation.replies host.step state operations :=
  ⟨vars.getElement_eq, vars.setElement_eq, fun _ _ keyed same => same.replies keyed⟩

theorem Variables.in_place_refines_plain_folded_scalar :
    let vars := (Variables.empty true).set "Rate" (.text "x")
    let operations := [.setElement "RATE" 2 (.boolean true), .getElement "rate" 0, .names,
      .setElement "new" 0 .null, .contains "NEW", .get "rate"]
    Operation.replies Variables.step vars operations =
      Operation.replies (HostStore.under vars.key).step ⟨⟨vars.entries, true⟩, rfl⟩ operations :=
  (Variables.in_place_refines_plain _).2.2 _ _ (HostStore.under_keyed _)
    (HostStore.under_shows _) _

end RuleScript
