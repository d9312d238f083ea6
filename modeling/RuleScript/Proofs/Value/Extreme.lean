import RuleScript.Proofs.Value.Order
import RuleScript.Run.Builtins

/-!
The least and the greatest of some values. The search keeps one value and compares each further
candidate with that one only, so what it finds is not beaten by any candidate behind it. That no
candidate at all beats it takes more: where `a` beats `b` and `b` beats `c`, `a` must beat `c`. The
order of values does not always do so, as two texts are compared by their characters even where both
spell numbers. It does among candidates of one kind, and where it does not, some arrangement of
three candidates leads to one that is beaten.
-/
namespace RuleScript

namespace Value

/-- None of the candidates is in the wanted order with a value. -/
def Unbeaten (wanted : Ordering) (candidates : List Value) (value : Value) : Prop :=
  ∀ other ∈ candidates, other.order? value ≠ some wanted

/-- Among the candidates, what beats one that beats another beats that one too. -/
def Consistent (wanted : Ordering) (candidates : List Value) : Prop :=
  ∀ a ∈ candidates, ∀ b ∈ candidates, ∀ c ∈ candidates,
    a.order? b = some wanted → b.order? c = some wanted → a.order? c = some wanted

theorem order?_self_ne {wanted : Ordering} (strict : wanted ≠ .eq) (value : Value) :
    value.order? value ≠ some wanted := by
  cases kind : value.isArray with
  | false =>
    rw [order?_self kind]
    exact fun same => strict (Option.some.inj same).symm
  | true =>
    cases value with
    | array items => exact nofun
    | _ => cases kind

/-- Null is in no strict order with anything. -/
theorem not_null_of_order? {a b : Value} {wanted : Ordering} (strict : wanted ≠ .eq)
    (ordered : a.order? b = some wanted) : a.isNull = false ∧ b.isNull = false := by
  cases a with
  | null =>
    cases b with
    | null => exact absurd (Option.some.inj ordered).symm strict
    | _ => cases ordered
  | _ =>
    cases b with
    | null => cases ordered
    | _ => exact ⟨rfl, rfl⟩

theorem cmp_trans {α : Type} {cmp : α → α → Ordering} [Std.TransCmp cmp] {a b c : α}
    {wanted : Ordering} (first : cmp a b = wanted) (second : cmp b c = wanted) :
    cmp a c = wanted := by
  cases wanted with
  | lt => exact Std.TransCmp.lt_trans first second
  | eq => exact Std.TransCmp.eq_trans first second
  | gt => exact Std.TransCmp.gt_trans first second

/-- Among values of one kind the order is transitive. -/
theorem order?_trans {a b c : Value} {wanted : Ordering} (left : a.kindName = b.kindName)
    (right : b.kindName = c.kindName) (first : a.order? b = some wanted)
    (second : b.order? c = some wanted) : a.order? c = some wanted := by
  cases a with
  | null =>
    cases b with
    | null => exact second
    | _ => cases first
  | number m =>
    cases b with
    | number n =>
      cases c with
      | number p =>
        have numbers : m.compare p = wanted :=
          cmp_trans (Option.some.inj first) (Option.some.inj second)
        exact congrArg some numbers
      | _ => simp [kindName] at right
    | _ => simp [kindName] at left
  | text s =>
    cases b with
    | text t =>
      cases c with
      | text u =>
        have texts : Ord.compare s u = wanted :=
          cmp_trans (Option.some.inj first) (Option.some.inj second)
        exact congrArg some texts
      | _ => simp [kindName] at right
    | _ => simp [kindName] at left
  | boolean p =>
    cases b with
    | boolean q =>
      cases c with
      | boolean r =>
        have truths : Ord.compare p.toNat r.toNat = wanted :=
          cmp_trans (Option.some.inj first) (Option.some.inj second)
        exact congrArg some truths
      | _ => simp [kindName] at right
    | _ => simp [kindName] at left
  | array items => cases b <;> cases first

theorem consistent_of_kind {wanted : Ordering} {candidates : List Value}
    (kind : ∀ a ∈ candidates, ∀ b ∈ candidates, a.kindName = b.kindName) :
    Consistent wanted candidates :=
  fun a inA b inB c inC => order?_trans (kind a inA b inB) (kind b inB c inC)

end Value

namespace Builtin

open Value

/-- The values that the least or greatest one is looked for among: the arguments, or the items of an
array that is the only one, without nulls. -/
def candidates (values : List Value) : List Value :=
  (match values with
    | [.array items] => items
    | _ => values).filter (!·.isNull)

/-- The order that a function of many values looks for: the least or the greatest of them. -/
inductive Picks : Builtin → Ordering → Prop
  | least : Picks .min .lt
  | greatest : Picks .max .gt

variable {function : Builtin} {wanted : Ordering}

theorem Picks.strict (picks : Picks function wanted) : wanted ≠ .eq := by
  cases picks <;> exact nofun

theorem Picks.apply (picks : Picks function wanted) (settings : Settings) (values : List Value) :
    function.apply settings values = function.best wanted (candidates values) := by
  cases picks <;> rfl

theorem ne_null_of_mem_candidates {values : List Value} {value : Value}
    (among : value ∈ candidates values) : value ≠ .null := by
  rintro rfl
  have kept := (List.mem_filter.1 among).2
  cases kept

theorem better_of_order {current candidate : Value} {order : Ordering}
    (compared : candidate.order? current = some order) :
    function.better wanted current candidate =
      .ok (if order = wanted then candidate else current) := by
  unfold better
  rw [compared]

/-- What one comparison leaves: the candidate, where it beats the value so far, else that value. -/
theorem better_cases {current candidate next : Value}
    (ran : function.better wanted current candidate = .ok next) :
    (candidate.order? current = some wanted ∧ next = candidate) ∨
      (candidate.order? current ≠ some wanted ∧ next = current) := by
  cases compared : candidate.order? current with
  | none =>
    unfold better at ran
    rw [compared] at ran
    cases ran
  | some order =>
    rw [better_of_order compared] at ran
    by_cases beats : order = wanted
    · rw [if_pos beats] at ran
      exact .inl ⟨congrArg some beats, (Except.ok.inj ran).symm⟩
    · rw [if_neg beats] at ran
      exact .inr ⟨fun same => beats (Option.some.inj same), (Except.ok.inj ran).symm⟩

/-- A search that goes on made its next comparison, and then went on from what that left. -/
theorem foldlM_better_cons {first candidate result : Value} {rest : List Value}
    (ran : (candidate :: rest).foldlM (function.better wanted) first = .ok result) :
    ∃ next, function.better wanted first candidate = .ok next ∧
      rest.foldlM (function.better wanted) next = .ok result := by
  rw [List.foldlM_cons] at ran
  cases compared : function.better wanted first candidate with
  | error error =>
    rw [compared] at ran
    cases ran
  | ok next =>
    rw [compared] at ran
    exact ⟨next, rfl, ran⟩

/-- The result is one of the candidates, and none behind it beats it. -/
theorem foldlM_better_split {first result : Value} {rest : List Value}
    (ran : rest.foldlM (function.better wanted) first = .ok result) :
    ∃ before after, first :: rest = before ++ result :: after ∧ Unbeaten wanted after result := by
  induction rest generalizing first with
  | nil =>
    cases ran
    exact ⟨[], [], rfl, nofun⟩
  | cons candidate rest ih =>
    obtain ⟨next, compared, ran⟩ := foldlM_better_cons ran
    obtain ⟨before, after, split, unbeaten⟩ := ih ran
    rcases better_cases compared with ⟨-, rfl⟩ | ⟨kept, rfl⟩
    · exact ⟨first :: before, after, by rw [split, List.cons_append], unbeaten⟩
    · -- The value so far is kept; where it is the result, the candidate is one more behind it.
      cases before with
      | nil =>
        cases split
        refine ⟨[], candidate :: rest, rfl, fun other among => ?_⟩
        rcases List.mem_cons.1 among with rfl | behind
        · exact kept
        · exact unbeaten other behind
      | cons head before =>
        cases split
        exact ⟨next :: candidate :: before, after, rfl, unbeaten⟩

/-- While being beaten is consistent, what beats the value so far is beaten by nothing seen. -/
theorem unbeaten_next (strict : wanted ≠ .eq) {all seen : List Value}
    (consistent : Consistent wanted all) (inside : ∀ value ∈ seen, value ∈ all)
    {current candidate next : Value} (known : current ∈ all) (given : candidate ∈ all)
    (unbeaten : Unbeaten wanted seen current)
    (ran : function.better wanted current candidate = .ok next) :
    next ∈ all ∧ Unbeaten wanted (seen ++ [candidate]) next := by
  rcases better_cases ran with ⟨beats, rfl⟩ | ⟨kept, rfl⟩
  · -- What beats the candidate would have beaten the value before it too.
    refine ⟨given, fun other among beatsIt => ?_⟩
    rcases List.mem_append.1 among with before | last
    · exact unbeaten other before
        (consistent other (inside other before) next given current known beatsIt beats)
    · cases List.mem_singleton.1 last
      exact order?_self_ne strict next beatsIt
  · refine ⟨known, fun other among => ?_⟩
    rcases List.mem_append.1 among with before | last
    · exact unbeaten other before
    · cases List.mem_singleton.1 last
      exact kept

theorem foldlM_better_unbeaten (strict : wanted ≠ .eq) {all : List Value}
    (consistent : Consistent wanted all) {first result : Value} {seen rest : List Value}
    (seenInside : ∀ value ∈ seen, value ∈ all) (restInside : ∀ value ∈ rest, value ∈ all)
    (known : first ∈ all) (unbeaten : Unbeaten wanted seen first)
    (ran : rest.foldlM (function.better wanted) first = .ok result) :
    Unbeaten wanted (seen ++ rest) result := by
  induction rest generalizing first seen with
  | nil =>
    cases ran
    rwa [List.append_nil]
  | cons candidate rest ih =>
    obtain ⟨next, compared, ran⟩ := foldlM_better_cons ran
    have given : candidate ∈ all := restInside candidate List.mem_cons_self
    obtain ⟨nextKnown, nextUnbeaten⟩ :=
      unbeaten_next strict consistent seenInside known given unbeaten compared
    have wider : ∀ value ∈ seen ++ [candidate], value ∈ all := by
      intro value among
      rcases List.mem_append.1 among with before | last
      · exact seenInside value before
      · cases List.mem_singleton.1 last
        exact given
    rw [List.append_cons]
    exact ih wider (fun value among => restInside value (List.mem_cons_of_mem _ among)) nextKnown
      nextUnbeaten ran

/-- What is found among some candidates is one of them that none behind it beats. -/
theorem best_split {all : List Value} {result : Value} (nonempty : all ≠ [])
    (found : function.best wanted all = .ok result) :
    ∃ before after, all = before ++ result :: after ∧ Unbeaten wanted after result := by
  cases all with
  | nil => exact absurd rfl nonempty
  | cons first rest => exact foldlM_better_split found

/-- Where being beaten is consistent, what is found is not beaten. -/
theorem best_unbeaten (strict : wanted ≠ .eq) {all : List Value} {result : Value}
    (consistent : Consistent wanted all) (found : function.best wanted all = .ok result) :
    Unbeaten wanted all result := by
  cases all with
  | nil => exact nofun
  | cons first rest =>
    have alone : Unbeaten wanted [first] first := by
      intro other among
      cases List.mem_singleton.1 among
      exact order?_self_ne strict first
    have inside : ∀ value ∈ [first], value ∈ first :: rest := by
      intro value among
      cases List.mem_singleton.1 among
      exact List.mem_cons_self
    exact foldlM_better_unbeaten strict consistent inside (fun _ => List.mem_cons_of_mem first)
      List.mem_cons_self alone found

/-- Of three candidates the one that comes last is found when it beats the first one and the second
one does not. -/
theorem best_of_three {a b c : Value} {order : Ordering} (beats : b.order? c = some wanted)
    (compared : a.order? c = some order) (differs : order ≠ wanted) :
    function.best wanted [c, a, b] = .ok b := by
  have kept : function.better wanted c a = .ok c := by
    rw [better_of_order compared, if_neg differs]
  have replaced : function.better wanted c b = .ok b := by
    rw [better_of_order beats, if_pos rfl]
  change [a, b].foldlM (function.better wanted) c = _
  rw [List.foldlM_cons, kept]
  change [b].foldlM (function.better wanted) c = _
  rw [List.foldlM_cons, replaced]
  rfl

/-- The least or greatest of some values is one of them. It is null exactly where there is nothing
but nulls; else it is a candidate that none behind it beats. Where being beaten is consistent among
the candidates, none of them beats it, whatever their arrangement; so it is among candidates of one
kind. Where it is not, for three candidates that can be compared, one arrangement of them leads to
one that is beaten. -/
theorem extremes_exact (picks : Picks function wanted) (settings : Settings) :
    (∀ values result, function.apply settings values = .ok result →
      (result = .null ↔ candidates values = []) ∧
      (candidates values ≠ [] → ∃ before after,
        candidates values = before ++ result :: after ∧ Unbeaten wanted after result) ∧
      (Consistent wanted (candidates values) → Unbeaten wanted (candidates values) result) ∧
      ((∀ a ∈ candidates values, ∀ b ∈ candidates values, a.kindName = b.kindName) →
        Unbeaten wanted (candidates values) result)) ∧
    ∀ a b c order, a.order? b = some wanted → b.order? c = some wanted →
      a.order? c = some order → order ≠ wanted →
      function.apply settings [c, a, b] = .ok b ∧ ¬Unbeaten wanted (candidates [c, a, b]) b := by
  have strict := picks.strict
  refine ⟨fun values result success => ?_, fun a b c order first second compared differs => ?_⟩
  · rw [picks.apply] at success
    refine ⟨⟨fun null => ?_, fun empty => ?_⟩, fun nonempty => best_split nonempty success,
      fun consistent => best_unbeaten strict consistent success,
      fun kind => best_unbeaten strict (consistent_of_kind kind) success⟩
    · by_cases empty : candidates values = []
      · exact empty
      · obtain ⟨before, after, split, -⟩ := best_split empty success
        have among : result ∈ candidates values := by simp [split]
        exact absurd null (ne_null_of_mem_candidates among)
    · rw [empty] at success
      exact (Except.ok.inj success).symm
  · obtain ⟨plainA, plainB⟩ := not_null_of_order? strict first
    obtain ⟨-, plainC⟩ := not_null_of_order? strict second
    have all : candidates [c, a, b] = [c, a, b] := by
      simp [candidates, plainA, plainB, plainC]
    rw [picks.apply, all]
    exact ⟨best_of_three second compared differs, fun unbeaten => unbeaten a (by simp) first⟩

/-- The least of some texts and the greatest of some numbers, given as one array. -/
theorem extremes_exact_uniform :
    let texts : List Value := [.text "pear", .null, .text "apple", .text "fig"]
    let numbers : List Value := [.array [.ofInt 3, .ofInt 7, .null, .ofInt 2]]
    (Builtin.min.apply (.standard 0) texts = .ok (.text "apple") ∧
      Unbeaten .lt (candidates texts) (.text "apple")) ∧
    (Builtin.max.apply (.standard 0) numbers = .ok (.ofInt 7) ∧
      Unbeaten .gt (candidates numbers) (.ofInt 7)) := by
  intro texts numbers
  have least : Builtin.min.apply (.standard 0) texts = .ok (.text "apple") := by rfl
  have greatest : Builtin.max.apply (.standard 0) numbers = .ok (.ofInt 7) := by rfl
  obtain ⟨-, -, -, unbeaten⟩ := (extremes_exact .least (.standard 0)).1 _ _ least
  obtain ⟨-, -, -, unbeaten'⟩ := (extremes_exact .greatest (.standard 0)).1 _ _ greatest
  exact ⟨⟨least, unbeaten (by decide)⟩, greatest, unbeaten' (by decide)⟩

/-- As texts, ten comes before nine. So it is found as the least of the text nine, the number nine
and the text ten, although the number nine comes before it. Among the two texts and a number between
them each is beaten by another: there nothing could be found that is not. -/
theorem least_beaten :
    let nine : Value := .text "9"
    let ten : Value := .text "10"
    let between : Value := .number ⟨false, 95, 1, by decide, by decide⟩
    (Builtin.min.apply (.standard 0) [nine, .ofInt 9, ten] = .ok ten ∧
      .ofInt 9 ∈ candidates [nine, .ofInt 9, ten] ∧ (Value.ofInt 9).order? ten = some .lt) ∧
    ∀ value ∈ [nine, between, ten], ¬Unbeaten .lt (candidates [nine, between, ten]) value := by
  intro nine ten between
  have texts : ten.order? nine = some .lt := by decide +kernel
  have same : (Value.ofInt 9).order? nine = some .eq := by decide +kernel
  have below : nine.order? between = some .lt := by decide +kernel
  have above : between.order? ten = some .lt := by decide +kernel
  have numbers : (Value.ofInt 9).order? ten = some .lt := by decide +kernel
  refine ⟨⟨best_of_three texts same (by decide), List.mem_filter.2 ⟨by simp, rfl⟩, numbers⟩, ?_⟩
  intro value among unbeaten
  have all : candidates [nine, between, ten] = [nine, between, ten] := rfl
  rw [all] at unbeaten
  simp only [List.mem_cons, List.not_mem_nil, or_false] at among
  rcases among with rfl | rfl | rfl
  · exact unbeaten ten (by simp) texts
  · exact unbeaten nine (by simp) below
  · exact unbeaten between (by simp) above

end Builtin
end RuleScript
