import Mathlib
import RuleScript.Json.Reader

/-!
The order of the members of objects. Members are put in their place by key, one for each key, so
every document that is read has all its objects in the order of their keys (`Json.ordered_parse?`).
-/
namespace RuleScript.Json

/-- The objects of the document, at any depth, have their members in the order of their keys, each
key once. -/
inductive Ordered : Json → Prop
  | null : Ordered .null
  | boolean (b : Bool) : Ordered (.boolean b)
  | number (n : JsonNumber) : Ordered (.number n)
  | text (s : String) : Ordered (.text s)
  | array {items : List Json} (inner : ∀ item ∈ items, Ordered item) : Ordered (.array items)
  | object {members : List (String × Json)}
      (sorted : members.Pairwise fun member later => member.1 < later.1)
      (inner : ∀ member ∈ members, Ordered member.2) : Ordered (.object members)

theorem mem_insertMember {key : String} {value : Json} {members : List (String × Json)}
    {member : String × Json} (among : member ∈ insertMember key value members) :
    member = (key, value) ∨ member ∈ members := by
  induction members with
  | nil => exact .inl (List.mem_singleton.1 among)
  | cons first rest others =>
    obtain ⟨other, old⟩ := first
    unfold insertMember at among
    split at among
    · exact List.mem_cons.1 among
    · split at among
      · exact (List.mem_cons.1 among).imp_right (List.mem_cons_of_mem _)
      · rcases List.mem_cons.1 among with rfl | later
        · exact .inr List.mem_cons_self
        · exact (others later).imp_right (List.mem_cons_of_mem _)

theorem sorted_insertMember (key : String) (value : Json) {members : List (String × Json)}
    (sorted : members.Pairwise fun member later => member.1 < later.1) :
    (insertMember key value members).Pairwise fun member later => member.1 < later.1 := by
  induction members with
  | nil => exact List.pairwise_singleton _ _
  | cons first rest others =>
    obtain ⟨other, old⟩ := first
    obtain ⟨above, ordered⟩ := List.pairwise_cons.1 sorted
    unfold insertMember
    split
    · next before =>
      refine List.pairwise_cons.2 ⟨fun member among => ?_, sorted⟩
      rcases List.mem_cons.1 among with rfl | later
      · exact before
      · exact lt_trans before (above member later)
    · next behind =>
      split
      · next same =>
        subst same
        exact List.pairwise_cons.2 ⟨above, ordered⟩
      · next different =>
        refine List.pairwise_cons.2 ⟨fun member among => ?_, others ordered⟩
        rcases mem_insertMember among with rfl | later
        · exact lt_of_le_of_ne (not_lt.1 behind) (Ne.symm different)
        · exact above member later

/-- Members that are in their place stay ordered while others are put in. -/
theorem ordered_foldl_insertMember {members placed : List (String × Json)}
    (inner : ∀ member ∈ members, member.2.Ordered)
    (sorted : placed.Pairwise fun member later => member.1 < later.1)
    (ordered : ∀ member ∈ placed, member.2.Ordered) :
    (Json.object (members.foldl (fun placed member => insertMember member.1 member.2 placed)
      placed)).Ordered := by
  induction members generalizing placed with
  | nil => exact .object sorted ordered
  | cons first rest others =>
    obtain ⟨here, later⟩ := List.forall_mem_cons.1 inner
    refine others later (sorted_insertMember _ _ sorted) fun member among => ?_
    rcases mem_insertMember among with rfl | old
    · exact here
    · exact ordered member old

theorem ordered_ofMembers {members : List (String × Json)}
    (inner : ∀ member ∈ members, member.2.Ordered) : (ofMembers members).Ordered :=
  ordered_foldl_insertMember inner .nil (by simp)

/-- Everything that is read within some steps is ordered. -/
structure ReadsOrdered (steps : ℕ) : Prop where
  value : ∀ depth source read, readValue? steps depth source = some read → read.1.Ordered
  items : ∀ depth source read, readItems? steps depth source = some read →
    ∀ item ∈ read.1, item.Ordered
  members : ∀ depth source read, readMembers? steps depth source = some read →
    ∀ member ∈ read.1, member.2.Ordered

namespace ReadsOrdered

variable {steps : ℕ} (before : ReadsOrdered steps)
include before

theorem value_succ (depth : ℕ) (source : List Char) (read : Json × List Char)
    (found : readValue? (steps + 1) depth source = some read) : read.1.Ordered := by
  unfold readValue? at found
  split at found
  · cases found
    exact .null
  · cases found
    exact .boolean true
  · cases found
    exact .boolean false
  · obtain ⟨_, -, rfl⟩ := Option.map_eq_some_iff.1 found
    exact .text _
  · split at found
    · cases found
    · split at found
      · cases found
        exact .array (by simp)
      · obtain ⟨inside, there, rfl⟩ := Option.map_eq_some_iff.1 found
        exact .array (before.items _ _ _ there)
  · split at found
    · cases found
    · split at found
      · cases found
        exact .object .nil (by simp)
      · obtain ⟨inside, there, rfl⟩ := Option.map_eq_some_iff.1 found
        exact ordered_ofMembers (before.members _ _ _ there)
  · obtain ⟨_, -, rfl⟩ := Option.map_eq_some_iff.1 found
    exact .number _

theorem items_succ (depth : ℕ) (source : List Char) (read : List Json × List Char)
    (found : readItems? (steps + 1) depth source = some read) :
    ∀ item ∈ read.1, item.Ordered := by
  unfold readItems? at found
  obtain ⟨⟨first, rest⟩, here, found⟩ := Option.bind_eq_some_iff.1 found
  have ordered := before.value _ _ _ here
  dsimp only at found ordered
  split at found
  · obtain ⟨⟨others, behind⟩, later, same⟩ := Option.bind_eq_some_iff.1 found
    cases same
    exact List.forall_mem_cons.2 ⟨ordered, before.items _ _ _ later⟩
  · cases found
    exact List.forall_mem_singleton.2 ordered
  · cases found

theorem members_succ (depth : ℕ) (source : List Char) (read : List (String × Json) × List Char)
    (found : readMembers? (steps + 1) depth source = some read) :
    ∀ member ∈ read.1, member.2.Ordered := by
  unfold readMembers? at found
  split at found
  · obtain ⟨⟨key, rest⟩, -, found⟩ := Option.bind_eq_some_iff.1 found
    dsimp only at found
    split at found
    · obtain ⟨⟨first, rest⟩, here, found⟩ := Option.bind_eq_some_iff.1 found
      have ordered := before.value _ _ _ here
      dsimp only at found ordered
      split at found
      · obtain ⟨⟨others, behind⟩, later, same⟩ := Option.bind_eq_some_iff.1 found
        cases same
        exact List.forall_mem_cons.2 ⟨ordered, before.members _ _ _ later⟩
      · cases found
        exact List.forall_mem_singleton.2 ordered
      · cases found
    · cases found
  · cases found

end ReadsOrdered

theorem readsOrdered (steps : ℕ) : ReadsOrdered steps := by
  induction steps with
  | zero => exact ⟨by simp [readValue?], by simp [readItems?], by simp [readMembers?]⟩
  | succ steps before => exact ⟨before.value_succ, before.items_succ, before.members_succ⟩

/-- A document that is read has its objects in the order of their keys. -/
theorem ordered_parse? {source : String} {document : Json} (read : parse? source = some document) :
    document.Ordered := by
  unfold parse? at read
  dsimp only at read
  split at read
  · next found rest there =>
    split at read
    · cases read
      exact (readsOrdered _).value _ _ _ there
    · cases read
  · cases read

end RuleScript.Json
