import RuleScript.Namespace.Store

/-!
The variables that a running script sees: a store, and over it one frame for each function call
that is under way. Reading goes outward from the innermost frame; writing stays in it.
-/
namespace RuleScript

/-- The variables of one function call. -/
structure Frame where
  entries : Registry Value
  caseSensitive : Bool

namespace Frame

def empty (caseSensitive : Bool) : Frame := ⟨.empty, caseSensitive⟩

def key (frame : Frame) (name : String) : String :=
  foldName frame.caseSensitive name

def get? (frame : Frame) (name : String) : Option Value :=
  frame.entries.get? (frame.key name)

def owns (frame : Frame) (name : String) : Bool :=
  frame.entries.contains (frame.key name)

def set (frame : Frame) (name : String) (value : Value) : Frame :=
  { frame with entries := frame.entries.insert (frame.key name) value }

end Frame

inductive Namespace
  | root (store : Store)
  | frame (own : Frame) (parent : Namespace)

/-- The spelling under which a name is kept by something that has the given names. A name that is
there as it stands is taken so; else, when case does not count, one that differs only in case. -/
def resolveAmong (has : String → Bool) (names : List String) (caseSensitive : Bool)
    (name : String) : String :=
  if caseSensitive || has name then name
  else (names.find? fun entry => Text.lower entry == Text.lower name).getD name

namespace Namespace

/-- The names that are there, the innermost first. -/
def names : Namespace → List String
  | .root store => store.names
  | .frame own parent => own.entries.names ++ parent.names

def contains : Namespace → String → Bool
  | .root store, name => store.contains name
  | .frame own parent, name =>
    own.owns name ||
      parent.contains (resolveAmong parent.contains parent.names own.caseSensitive name)

/-- The spelling under which a name is kept. -/
def resolveName (space : Namespace) (caseSensitive : Bool) (name : String) : String :=
  resolveAmong space.contains space.names caseSensitive name

/-- The value of a variable, null where there is none. -/
def get : Namespace → String → Value
  | .root store, name => store.get name
  | .frame own parent, name =>
    match own.get? name with
    | some value => value
    | none => parent.get (parent.resolveName own.caseSensitive name)

/-- The value of a variable of the innermost frame; without frames, of the store. -/
def getLocal : Namespace → String → Value
  | .root store, name => store.get name
  | .frame own _, name => (own.get? name).getD .null

/-- The innermost frame has the variable; without frames nothing is owned. -/
def owns : Namespace → String → Bool
  | .root _, _ => false
  | .frame own _, name => own.owns name

/-- Writes a variable of the innermost frame; without frames, of the store. -/
def set : Namespace → String → Value → Namespace
  | .root store, name, value => .root (store.set name value)
  | .frame own parent, name, value => .frame (own.set name value) parent

def getElement : Namespace → String → Nat → Value
  | .root store, name, index => store.getElement name index
  | .frame own parent, name, index => (get (.frame own parent) name).element index

def setElement : Namespace → String → Nat → Value → Namespace
  | .root store, name, index, value => .root (store.setElement name index value)
  | .frame own parent, name, index, value =>
    set (.frame own parent) name ((get (.frame own parent) name).withElement index value)

/-- Opens a frame over the namespace. -/
def push (space : Namespace) (caseSensitive : Bool) : Namespace :=
  .frame (.empty caseSensitive) space

/-- The namespace without its innermost frame. -/
def outer : Namespace → Namespace
  | .root store => .root store
  | .frame _ parent => parent

/-- The store under all frames. -/
def store : Namespace → Store
  | .root store => store
  | .frame _ parent => parent.store

end Namespace

/-- A change to one variable. -/
inductive Write
  | whole (name : String) (value : Value)
  | element (name : String) (index : Nat) (value : Value)

def Namespace.apply (space : Namespace) : Write → Namespace
  | .whole name value => space.set name value
  | .element name index value => space.setElement name index value

/-- Makes changes in turn. -/
def Namespace.applyAll (space : Namespace) (writes : List Write) : Namespace :=
  writes.foldl apply space

end RuleScript
