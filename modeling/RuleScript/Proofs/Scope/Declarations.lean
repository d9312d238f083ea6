import Mathlib.Data.List.Find
import RuleScript.Scope.Basic

/-!
The levels of a scope, and the level that a block of declarations opens. Of several declarations of
a name the last one counts, as long as no two names of the block match that are spelled differently:
a level keeps one entry for each spelling, and a name finds one of the entries that match it.
-/
namespace RuleScript

theorem sameName_iff (caseSensitive : Bool) (a b : String) :
    sameName caseSensitive a b = true ↔ foldName caseSensitive a = foldName caseSensitive b :=
  beq_iff_eq

namespace Registry

variable {α : Type}

theorem lookup_eq_find? (entries : List (String × α)) (name : String) :
    entries.lookup name = (entries.find? fun entry => entry.1 == name).map Prod.snd := by
  induction entries with
  | nil => rfl
  | cons head tail others =>
    obtain ⟨other, value⟩ := head
    rw [lookup_cons_name, List.find?_cons]
    by_cases same : name = other
    · simp [same]
    · have different : (other == name) = false := beq_eq_false_iff_ne.2 fun equal => same equal.symm
      rw [if_neg same, different]
      exact others

/-- A name finds the first entry that matches it. -/
theorem find?_eq (registry : Registry α) (caseSensitive : Bool) (name : String) :
    registry.find? caseSensitive name =
      (registry.entries.find? fun entry => sameName caseSensitive entry.1 name).map Prod.snd := by
  unfold find?
  cases caseSensitive with
  | false => rfl
  | true => exact lookup_eq_find? registry.entries name

/-- A name finds what a list has for it, where the list has what the registry has for each spelling
and no two of its names match that are spelled differently. -/
theorem find?_of_get? {registry : Registry α} {key : α → String} {listed : List α}
    {caseSensitive : Bool}
    (same : ∀ name, registry.get? name = listed.find? fun thing => key thing == name)
    (alike : ∀ first ∈ listed, ∀ second ∈ listed,
      sameName caseSensitive (key first) (key second) = true → key first = key second)
    (name : String) :
    registry.find? caseSensitive name =
      listed.find? fun thing => sameName caseSensitive (key thing) name := by
  have listed_of_mem : ∀ entry ∈ registry.entries, ∃ thing ∈ listed, key thing = entry.1 := by
    intro entry among
    have bound : registry.get? entry.1 ≠ none := fun unbound =>
      bne_iff_ne.1 (List.lookup_eq_none_iff.1 unbound entry among) rfl
    rw [same, ne_eq, List.find?_eq_none] at bound
    push Not at bound
    obtain ⟨thing, member, named⟩ := bound
    exact ⟨thing, member, beq_iff_eq.1 named⟩
  rw [find?_eq]
  cases found : listed.find? fun thing => sameName caseSensitive (key thing) name with
  | none =>
    have unmatched := List.find?_eq_none.1 found
    rw [Option.map_eq_none_iff, List.find?_eq_none]
    intro entry among
    obtain ⟨thing, member, named⟩ := listed_of_mem entry among
    rw [← named]
    exact unmatched thing member
  | some first =>
    have matched : sameName caseSensitive (key first) name = true :=
      List.find?_some (p := fun thing => sameName caseSensitive (key thing) name) found
    have spelled : ∀ thing ∈ listed,
        sameName caseSensitive (key thing) name = (key thing == key first) := by
      intro thing member
      rw [Bool.eq_iff_iff, beq_iff_eq]
      constructor
      · intro matches'
        refine alike thing member first (List.mem_of_find?_eq_some found) ?_
        rw [sameName_iff] at matched matches' ⊢
        rw [matches', matched]
      · intro equal
        rw [equal]
        exact matched
    have entries : ∀ entry ∈ registry.entries,
        sameName caseSensitive entry.1 name = (entry.1 == key first) := by
      intro entry among
      obtain ⟨thing, member, named⟩ := listed_of_mem entry among
      rw [← named]
      exact spelled thing member
    rw [List.find?_congr entries, ← lookup_eq_find?]
    refine (same (key first)).trans ?_
    rw [← found]
    exact (List.find?_congr spelled).symm

end Registry

/-- The last of some declarations whose name matches. -/
def declared? (caseSensitive : Bool) (name : String) (functions : List FunctionDef) :
    Option FunctionDef :=
  functions.reverse.find? fun function => sameName caseSensitive function.name name

/-- No two of the names match that are spelled differently. -/
def SpelledAlike (caseSensitive : Bool) (functions : List FunctionDef) : Prop :=
  ∀ first ∈ functions, ∀ second ∈ functions,
    sameName caseSensitive first.name second.name = true → first.name = second.name

theorem spelledAlike_caseSensitive (functions : List FunctionDef) :
    SpelledAlike true functions :=
  fun _ _ _ _ same => (sameName_iff true _ _).1 same

namespace Level

theorem get?_defineScripts (level : Level) (functions : List FunctionDef) (name : String) :
    (level.defineScripts functions).scripts.get? name =
      (functions.reverse.find? fun function => function.name == name).or
        (level.scripts.get? name) := by
  unfold defineScripts
  induction functions generalizing level with
  | nil => simp
  | cons function rest others =>
    rw [List.foldl_cons, others, List.reverse_cons, List.find?_append, Option.or_assoc]
    congr 1
    by_cases same : function.name = name
    · simp [defineScript, same]
    · simp [defineScript, same, Ne.symm same]

theorem natives_defineScripts (level : Level) (functions : List FunctionDef) :
    (level.defineScripts functions).natives = level.natives := by
  unfold defineScripts
  induction functions generalizing level with
  | nil => rfl
  | cons function rest others =>
    rw [List.foldl_cons, others]
    rfl

/-- A name finds the last declaration that matches it. -/
theorem find?_declared {caseSensitive : Bool} {functions : List FunctionDef}
    (alike : SpelledAlike caseSensitive functions) (name : String) :
    (Level.empty.defineScripts functions).scripts.find? caseSensitive name =
      declared? caseSensitive name functions := by
  refine Registry.find?_of_get? (fun name => ?_) (fun first among second member => ?_) name
  · exact (get?_defineScripts .empty functions name).trans (Option.or_none ..)
  · exact alike first (List.mem_reverse.1 among) second (List.mem_reverse.1 member)

end Level

namespace Scope

/-- The levels of a scope, each with those around it, the innermost first. -/
def levels : Scope → List Scope
  | .root level => [.root level]
  | .child level outer => .child level outer :: outer.levels

theorem mem_levels_self (scope : Scope) : scope ∈ scope.levels := by
  cases scope <;> exact List.mem_cons_self

theorem mem_levels_trans {inner middle outer : Scope} (first : inner ∈ middle.levels)
    (second : middle ∈ outer.levels) : inner ∈ outer.levels := by
  induction outer with
  | root level =>
    cases List.mem_singleton.1 second
    exact first
  | child level around found =>
    rcases List.mem_cons.1 second with rfl | among
    · exact first
    · exact List.mem_cons_of_mem _ (found among)

end Scope
end RuleScript
