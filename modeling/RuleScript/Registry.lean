/-!
Names bound to things, each name once, in the order in which the names first came in.

The order stands for one that is left open: a store or a level of functions may list its names in
any order, and in another one after a write. It plays no part where a name is looked up as it
stands (`get?`, `contains`). It only decides which of two names is met first that differ from a
third in case alone; `RuleScript.Proofs.Namespace.Listing` says what holds in any order.
-/
namespace RuleScript

structure Registry (α : Type) where
  entries : List (String × α)
  nodup : (entries.map Prod.fst).Nodup

namespace Registry

variable {α : Type}

def empty : Registry α := ⟨[], List.nodup_nil⟩

instance : Inhabited (Registry α) := ⟨empty⟩

/-- The names, in order. -/
def names (registry : Registry α) : List String :=
  registry.entries.map Prod.fst

def size (registry : Registry α) : Nat :=
  registry.entries.length

/-- What a name is bound to. -/
def get? (registry : Registry α) (name : String) : Option α :=
  registry.entries.lookup name

def contains (registry : Registry α) (name : String) : Bool :=
  (registry.get? name).isSome

/-- Changes what a name is bound to; an unbound name goes to the end. -/
def alterEntries (name : String) (change : Option α → α) :
    List (String × α) → List (String × α)
  | [] => [(name, change none)]
  | (other, old) :: rest =>
    if other = name then (other, change (some old)) :: rest
    else (other, old) :: alterEntries name change rest

theorem mem_names_alterEntries {name other : String} {change : Option α → α}
    {entries : List (String × α)}
    (member : other ∈ (alterEntries name change entries).map Prod.fst) :
    other = name ∨ other ∈ entries.map Prod.fst := by
  induction entries with
  | nil => simpa [alterEntries] using member
  | cons head tail ih =>
    obtain ⟨first, old⟩ := head
    unfold alterEntries at member
    split at member
    · exact .inr member
    · rw [List.map_cons, List.mem_cons] at member
      rcases member with equal | member
      · exact .inr (by simp [equal])
      · exact (ih member).imp id (fun found => by simp [found])

theorem alterEntries_nodup (name : String) (change : Option α → α) (entries : List (String × α))
    (nodup : (entries.map Prod.fst).Nodup) :
    ((alterEntries name change entries).map Prod.fst).Nodup := by
  induction entries with
  | nil => simp [alterEntries]
  | cons head tail ih =>
    obtain ⟨first, old⟩ := head
    rw [List.map_cons, List.nodup_cons] at nodup
    unfold alterEntries
    split
    · simpa using nodup
    · next different =>
      rw [List.map_cons, List.nodup_cons]
      refine ⟨fun member => ?_, ih nodup.2⟩
      rcases mem_names_alterEntries member with equal | found
      · exact different equal
      · exact nodup.1 found

/-- The registry with one binding changed, or added where the name has none. -/
def alter (registry : Registry α) (name : String) (change : Option α → α) : Registry α :=
  ⟨alterEntries name change registry.entries,
    alterEntries_nodup name change registry.entries registry.nodup⟩

/-- Binds a name. A name that is bound keeps its place. -/
def insert (registry : Registry α) (name : String) (value : α) : Registry α :=
  registry.alter name fun _ => value

/-- The registry without a name. -/
def erase (registry : Registry α) (name : String) : Registry α :=
  ⟨registry.entries.filter (fun entry => entry.1 != name),
    registry.nodup.sublist (List.Sublist.map _ List.filter_sublist)⟩

@[simp] theorem get?_empty (name : String) : (empty : Registry α).get? name = none := rfl

theorem lookup_cons_name (name other : String) (value : α) (entries : List (String × α)) :
    ((name, value) :: entries).lookup other =
      if other = name then some value else entries.lookup other := by
  by_cases same : other = name
  · simp [same]
  · simp [List.lookup_cons, same, beq_eq_false_iff_ne.2 same]

theorem lookup_alterEntries (name other : String) (change : Option α → α)
    (entries : List (String × α)) :
    (alterEntries name change entries).lookup other =
      if other = name then some (change (entries.lookup name)) else entries.lookup other := by
  induction entries with
  | nil => simp [alterEntries, lookup_cons_name]
  | cons head tail ih =>
    obtain ⟨first, old⟩ := head
    by_cases bound : first = name <;> grind [alterEntries, lookup_cons_name]

/-- Changing a binding leaves the others as they are. -/
theorem get?_alter (registry : Registry α) (name other : String) (change : Option α → α) :
    (registry.alter name change).get? other =
      if other = name then some (change (registry.get? name)) else registry.get? other :=
  lookup_alterEntries name other change registry.entries

/-- A name is bound to what it was last bound to. -/
@[simp] theorem get?_insert (registry : Registry α) (name other : String) (value : α) :
    (registry.insert name value).get? other =
      if other = name then some value else registry.get? other :=
  get?_alter registry name other fun _ => value

theorem lookup_filter_name (name other : String) (entries : List (String × α)) :
    (entries.filter fun entry => entry.1 != name).lookup other =
      if other = name then none else entries.lookup other := by
  induction entries with
  | nil => simp
  | cons head tail ih =>
    obtain ⟨first, old⟩ := head
    by_cases bound : first = name <;> grind [lookup_cons_name]

/-- A name that was taken out is bound to nothing. -/
@[simp] theorem get?_erase (registry : Registry α) (name other : String) :
    (registry.erase name).get? other = if other = name then none else registry.get? other :=
  lookup_filter_name name other registry.entries

/-- The names bound in turn; of two bindings of a name the later counts. -/
def ofList (entries : List (String × α)) : Registry α :=
  entries.foldl (fun registry entry => registry.insert entry.1 entry.2) empty

end Registry
end RuleScript
