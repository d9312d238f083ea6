import RuleScript.Registry
import RuleScript.Value.Element

/-!
Stores of variables. The standard store can fold the case of its names and changes elements in
place; a store of the host matches names as they stand, and may or may not list them.
-/
namespace RuleScript

/-- The standard store. -/
structure Variables where
  entries : Registry Value
  /-- Names are kept in lower case. -/
  folds : Bool

namespace Variables

def empty (folds : Bool) : Variables := ⟨.empty, folds⟩

/-- The name under which a variable is kept. -/
def key (vars : Variables) (name : String) : String :=
  foldName (!vars.folds) name

def get (vars : Variables) (name : String) : Value :=
  (vars.entries.get? (vars.key name)).getD .null

def set (vars : Variables) (name : String) (value : Value) : Variables :=
  { vars with entries := vars.entries.insert (vars.key name) value }

def contains (vars : Variables) (name : String) : Bool :=
  vars.entries.contains (vars.key name)

/-- An element, looked up without taking the whole value. -/
def getElement (vars : Variables) (name : String) (index : Nat) : Value :=
  match vars.entries.get? (vars.key name) with
  | some (.array items) => (items[index]?).getD .null
  | _ => .null

/-- What becomes of a slot when an element in it is changed. A variable that is not there gets a
slot with null in it, a slot without an array is made one, and then the array grows as far as it
must. -/
def changeSlot (index : Nat) (value : Value) (slot : Option Value) : Value :=
  let held :=
    match slot.getD .null with
    | .array items => Value.array items
    | other => Value.array other.items
  match held with
  | .array items => .array (Value.putItem items index value)
  | other => other

/-- Changes an element in place. -/
def setElement (vars : Variables) (name : String) (index : Nat) (value : Value) : Variables :=
  { vars with entries := vars.entries.alter (vars.key name) (changeSlot index value) }

/-- The store without a variable. -/
def remove (vars : Variables) (name : String) : Variables :=
  { vars with entries := vars.entries.erase (vars.key name) }

/-- What `remove` takes out. -/
def get? (vars : Variables) (name : String) : Option Value :=
  vars.entries.get? (vars.key name)

def size (vars : Variables) : Nat :=
  vars.entries.size

/-- The names in the order of their characters. -/
def sortedNames (vars : Variables) : List String :=
  vars.entries.names.mergeSort (fun a b => decide (a ≤ b))

end Variables

/-- A store of the host. It has whole values only; elements are read from them and written back. -/
structure HostStore where
  entries : Registry Value
  /-- The host tells which names there are. -/
  listed : Bool

namespace HostStore

def get (store : HostStore) (name : String) : Value :=
  (store.entries.get? name).getD .null

def set (store : HostStore) (name : String) (value : Value) : HostStore :=
  { store with entries := store.entries.insert name value }

def contains (store : HostStore) (name : String) : Bool :=
  store.entries.contains name

def names (store : HostStore) : List String :=
  if store.listed then store.entries.names else []

end HostStore

inductive Store
  | standard (vars : Variables)
  | host (store : HostStore)

namespace Store

def entries : Store → Registry Value
  | .standard vars => vars.entries
  | .host store => store.entries

/-- The value of a variable, null where there is none. -/
def get (store : Store) (name : String) : Value :=
  match store with
  | .standard vars => vars.get name
  | .host store => store.get name

def set (store : Store) (name : String) (value : Value) : Store :=
  match store with
  | .standard vars => .standard (vars.set name value)
  | .host store => .host (store.set name value)

def contains (store : Store) (name : String) : Bool :=
  match store with
  | .standard vars => vars.contains name
  | .host store => store.contains name

def getElement (store : Store) (name : String) (index : Nat) : Value :=
  match store with
  | .standard vars => vars.getElement name index
  | .host store => (store.get name).element index

def setElement (store : Store) (name : String) (index : Nat) (value : Value) : Store :=
  match store with
  | .standard vars => .standard (vars.setElement name index value)
  | .host store => .host (store.set name ((store.get name).withElement index value))

/-- The names that the store lists. -/
def names : Store → List String
  | .standard vars => vars.entries.names
  | .host store => store.names

end Store
end RuleScript
