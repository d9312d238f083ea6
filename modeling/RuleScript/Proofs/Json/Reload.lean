import Mathlib
import RuleScript.Json.Exchange
import RuleScript.Proofs.Decimal.Numeral
import RuleScript.Proofs.Namespace.Tidy

/-!
Variables that are written to a document and loaded again. Writing goes by the values of the
language and rounds their numbers; loading goes by the members of the document and reads the text of
their numbers. As long as every number is rounded to a whole number of 64 bits nothing else is lost:
the variables are there again, each with its rounded value, whatever their names are.
-/
namespace RuleScript

/-- The decimal stands for a whole number of 64 bits. -/
def Decimal.IsInt64 (d : Decimal) : Prop :=
  ∃ n : Int, fitsInt64 n = true ∧ d.signed = n * tenPow d.scale

namespace Value

mutual

/-- All numbers of a value, also those inside arrays, are of the given sort. -/
def EveryNumber (sort : Decimal → Prop) : Value → Prop
  | .null => True
  | .number n => sort n
  | .text _ => True
  | .boolean _ => True
  | .array items => EveryNumberOf sort items

def EveryNumberOf (sort : Decimal → Prop) : List Value → Prop
  | [] => True
  | item :: rest => item.EveryNumber sort ∧ EveryNumberOf sort rest

end

mutual

/-- The value with every number rounded as the settings say. -/
def rounded (settings : Settings) : Value → Value
  | .null => .null
  | .number n => .number (settings.round n)
  | .text s => .text s
  | .boolean b => .boolean b
  | .array items => .array (roundedItems settings items)

def roundedItems (settings : Settings) : List Value → List Value
  | [] => []
  | item :: rest => item.rounded settings :: roundedItems settings rest

end

mutual

/-- The values are equal, where a number may have another representation. -/
def same : Value → Value → Bool
  | .null, .null => true
  | .number a, .number b => a.sameNumber b
  | .text a, .text b => a == b
  | .boolean a, .boolean b => a == b
  | .array a, .array b => sameItems a b
  | _, _ => false

def sameItems : List Value → List Value → Bool
  | [], [] => true
  | a :: as, b :: bs => a.same b && sameItems as bs
  | _, _ => false

end

end Value

/-- A decimal that stands for a whole number of 64 bits passes for one, and is that one. -/
theorem Decimal.toInt64?_of_whole {d : Decimal} {n : Int} (fits : fitsInt64 n = true)
    (value : d.signed = n * tenPow d.scale) : d.isWhole = true ∧ d.toInt64? = some n := by
  have power : (tenPow d.scale : Int) ≠ 0 := by
    have positive := tenPow_pos d.scale
    omega
  have coefficient : d.coefficient = n.natAbs * tenPow d.scale := by
    have magnitude : d.signed.natAbs = d.coefficient := by
      unfold signed
      split <;> simp
    rw [← magnitude, value, Int.natAbs_mul, Int.natAbs_natCast]
  constructor
  · simp [isWhole, coefficient]
  · rw [toInt64?_eq, value, Int.mul_tdiv_cancel _ power, if_pos fits]

namespace Json

/-- A number that is rounded to a whole number of 64 bits is written as that whole number. -/
theorem ofDecimal_of_whole {settings : Settings} {d : Decimal} {n : Int}
    (fits : fitsInt64 n = true)
    (value : (settings.round d).signed = n * tenPow (settings.round d).scale) :
    ofDecimal settings d = .integer n := by
  obtain ⟨whole, found⟩ := Decimal.toInt64?_of_whole fits value
  simp [ofDecimal, whole, found]

/-- Such a number is loaded as the number that it was rounded to. -/
theorem toValue_ofDecimal {settings : Settings} {d : Decimal}
    (whole : (settings.round d).IsInt64) :
    (ofDecimal settings d).toValue.same (.number (settings.round d)) = true := by
  obtain ⟨n, fits, value⟩ := whole
  have bounded : n.natAbs < Decimal.coefficientBound := by
    simp only [fitsInt64, Bool.and_eq_true, decide_eq_true_eq] at fits
    unfold Decimal.coefficientBound
    omega
  rw [ofDecimal_of_whole fits value, JsonNumber.toValue, writeNumber,
    Decimal.numeral?_toString bounded]
  simp only [Value.same, Decimal.sameNumber_iff, Decimal.signed_ofInt bounded, value]
  simp [Decimal.ofInt]

mutual

/-- A value comes back from its document with its numbers rounded, whatever the path it is at. -/
theorem valueAt_ofValue {settings : Settings} (path : String) :
    (value : Value) → value.EveryNumber (fun n => (settings.round n).IsInt64) →
      ∃ loaded, (ofValue settings value).valueAt path = .ok loaded ∧
        loaded.same (value.rounded settings) = true
  | .null, _ => ⟨.null, rfl, rfl⟩
  | .number n, whole => ⟨_, rfl, toValue_ofDecimal whole⟩
  | .text s, _ => ⟨.text s, rfl, by simp [Value.rounded, Value.same]⟩
  | .boolean b, _ => ⟨.boolean b, rfl, by simp [Value.rounded, Value.same]⟩
  | .array items, whole => by
    obtain ⟨loaded, read, same⟩ := valuesAt_ofValues path 0 items whole
    refine ⟨.array loaded, ?_, same⟩
    rw [ofValue, valueAt, read]
    rfl

theorem valuesAt_ofValues {settings : Settings} (path : String) (index : Nat) :
    (items : List Value) → Value.EveryNumberOf (fun n => (settings.round n).IsInt64) items →
      ∃ loaded, valuesAt path index (ofValues settings items) = .ok loaded ∧
        Value.sameItems loaded (Value.roundedItems settings items) = true
  | [], _ => ⟨[], rfl, rfl⟩
  | item :: rest, whole => by
    obtain ⟨first, read, same⟩ :=
      valueAt_ofValue (path ++ "[" ++ toString index ++ "]") item whole.1
    obtain ⟨others, further, alike⟩ := valuesAt_ofValues path (index + 1) rest whole.2
    refine ⟨first :: others, ?_, ?_⟩
    · rw [ofValues, valuesAt, read]
      simp only [bind, Except.bind, further]
      rfl
    · simp [Value.roundedItems, Value.sameItems, same, alike]

end

/-- A document for a value is no group of variables, so it becomes the variable of that name. -/
theorem addMember_ofValue (settings : Settings) (name : String) (vars : Variables)
    (value : Value) :
    addMember name vars (ofValue settings value) =
      ((ofValue settings value).valueAt name).map (vars.set name) := by
  cases value <;> simp only [ofValue, addMember]

end Json

namespace Registry

variable {α β : Type}

/-- The same names, bound to what a function makes of what they were bound to. -/
def map (change : α → β) (registry : Registry α) : Registry β :=
  ⟨registry.entries.map fun entry => (entry.1, change entry.2), by
    simpa [Function.comp_def] using registry.nodup⟩

theorem get?_map (change : α → β) (registry : Registry α) (name : String) :
    (registry.map change).get? name = (registry.get? name).map change := by
  change (registry.entries.map fun entry => (entry.1, change entry.2)).lookup name =
    (registry.entries.lookup name).map change
  induction registry.entries with
  | nil => rfl
  | cons head tail others =>
    obtain ⟨first, value⟩ := head
    rw [List.map_cons, lookup_cons_name, lookup_cons_name, others]
    split <;> rfl

end Registry

namespace Variables

/-- The store with every number in it rounded as the settings say. -/
def rounded (settings : Settings) (vars : Variables) : Variables :=
  { vars with entries := vars.entries.map (Value.rounded settings) }

/-- The stores match names alike and have the same names, with the same values. -/
structure Same (vars others : Variables) : Prop where
  folds : vars.folds = others.folds
  entries : ∀ name, Option.Rel (fun value other => value.same other = true)
    (vars.entries.get? name) (others.entries.get? name)

/-- A store keeps each of its names as it stands. -/
theorem Built.key_of_mem {vars : Variables} (built : vars.Built) {name : String}
    (among : name ∈ vars.entries.names) : vars.key name = name := by
  unfold key
  cases folds : vars.folds with
  | false => rfl
  | true => exact (built.tidy folds).folded folds name among

end Variables

namespace Json

/-- The members that were written for some names of a store, loaded on top of another store of its
kind: these names have their rounded values, and the others what they had. -/
theorem addMembers_written {settings : Settings} {vars : Variables} (values : String → Value)
    (whole : ∀ name, (values name).EveryNumber fun n => (settings.round n).IsInt64)
    (names : List String) (kept : ∀ name ∈ names, vars.key name = name) :
    ∃ loaded, addMembers "" vars (names.map fun name => (name, ofValue settings (values name))) =
        .ok loaded ∧ loaded.folds = vars.folds ∧
      (∀ name ∈ names, ∃ value, loaded.entries.get? name = some value ∧
        value.same ((values name).rounded settings) = true) ∧
      ∀ name, name ∉ names → loaded.entries.get? name = vars.entries.get? name := by
  induction names generalizing vars with
  | nil => exact ⟨vars, rfl, rfl, by simp, fun _ _ => rfl⟩
  | cons first rest others =>
    obtain ⟨value, read, same⟩ := valueAt_ofValue first (values first) (whole first)
    have itself : vars.key first = first := kept first List.mem_cons_self
    have added : addMember (memberName "" first) vars (ofValue settings (values first)) =
        .ok (vars.set first value) := by
      have named : memberName "" first = first := rfl
      rw [named, addMember_ofValue, read]
      rfl
    have still : ∀ name ∈ rest, (vars.set first value).key name = name :=
      fun name among => kept name (List.mem_cons_of_mem _ among)
    obtain ⟨loaded, ran, folds, there, elsewhere⟩ := others still
    refine ⟨loaded, ?_, folds, ?_, ?_⟩
    · rw [List.map_cons, addMembers, added]
      exact ran
    · intro name among
      by_cases later : name ∈ rest
      · exact there name later
      · have here : name = first := (List.mem_cons.1 among).resolve_right later
        subst here
        refine ⟨value, ?_, same⟩
        rw [elsewhere _ later, Variables.set, itself]
        simp
    · intro name missing
      rw [List.mem_cons, not_or] at missing
      rw [elsewhere name missing.2, Variables.set, itself]
      simp [missing.1]

end Json

/-- Writing a store to a document and loading it again restores it, with its numbers rounded. This
holds for every store of the kind that is loaded under the settings, whatever its names, as long as
all its numbers, at any depth, are rounded to whole numbers of 64 bits. -/
theorem Variables.reloaded (settings : Settings) {vars : Variables} (built : vars.Built)
    (kind : vars.folds = !settings.caseSensitive)
    (whole : ∀ entry ∈ vars.entries.entries,
      entry.2.EveryNumber fun n => (settings.round n).IsInt64) :
    ∃ loaded, Json.toVariables settings (Json.ofVariables settings vars) = .ok loaded ∧
      loaded.Same (vars.rounded settings) := by
  have written : ∀ name, (vars.get name).EveryNumber fun n => (settings.round n).IsInt64 := by
    intro name
    unfold Variables.get
    cases bound : vars.entries.get? (vars.key name) with
    | none => exact trivial
    | some value =>
      obtain ⟨before, after, split, -⟩ := List.lookup_eq_some_iff.1 bound
      exact whole (vars.key name, value) (by simp [split])
  have among : ∀ name, name ∈ vars.sortedNames ↔ name ∈ vars.entries.names := by
    intro name
    exact List.mem_mergeSort
  have kept : ∀ name ∈ vars.sortedNames,
      (Variables.empty (!settings.caseSensitive)).key name = name := by
    intro name member
    have own := built.key_of_mem ((among name).1 member)
    rwa [Variables.key, kind] at own
  obtain ⟨loaded, ran, folds, there, elsewhere⟩ :=
    Json.addMembers_written vars.get written vars.sortedNames kept
  refine ⟨loaded, ran, ⟨folds.trans kind.symm, fun name => ?_⟩⟩
  rw [Variables.rounded, Registry.get?_map]
  by_cases member : name ∈ vars.entries.names
  · obtain ⟨value, found, same⟩ := there name ((among name).2 member)
    obtain ⟨old, bound⟩ : ∃ old, vars.entries.get? name = some old := by
      apply Option.ne_none_iff_exists'.1
      intro none
      exact Registry.get?_eq_none_iff.1 none member
    have read : vars.get name = old := by
      rw [Variables.get, built.key_of_mem member, bound, Option.getD_some]
    rw [found, bound, Option.map_some, ← read]
    exact .some same
  · have absent := Registry.get?_eq_none_iff.2 member
    rw [elsewhere name (fun inside => member ((among name).1 inside)), absent]
    exact .none

/-- A folding store with the empty name and a name with points, whose numbers lie inside arrays: a
half goes to the even neighbour, and what is rounded to zero is a plain zero. -/
theorem Variables.reloaded_nested :
    let settings : Settings := { Settings.standard 0 with scale := 0, caseSensitive := false }
    let half : Decimal := ⟨true, 25, 1, by decide, by decide⟩
    let little : Decimal := ⟨true, 1, 3, by decide, by decide⟩
    let vars := ((Variables.empty true).set "" (.array [.number half, .array [.number little]])).set
      "Item.Name" (.text "pen")
    vars.Built ∧ vars.folds = true ∧ settings.round half = Decimal.ofInt (-2) ∧
      settings.round little = Decimal.zero ∧
      ∃ loaded, Json.toVariables settings (Json.ofVariables settings vars) = .ok loaded ∧
        loaded.Same (vars.rounded settings) := by
  intro settings half little vars
  have built : vars.Built := .set (.set (.empty true) _ _) _ _
  have halved : settings.round half = Decimal.ofInt (-2) := by decide
  have vanished : settings.round little = Decimal.zero := by decide
  refine ⟨built, rfl, halved, vanished, reloaded settings built rfl ?_⟩
  have names : vars.entries.entries = [("", .array [.number half, .array [.number little]]),
      ("item.name", .text "pen")] := by
    cbv
  have wholes : (settings.round half).IsInt64 ∧ (settings.round little).IsInt64 := by
    rw [halved, vanished]
    exact ⟨⟨-2, by decide, by decide⟩, ⟨0, by decide, by decide⟩⟩
  intro entry among
  rw [names] at among
  simp only [List.mem_cons, List.not_mem_nil, or_false] at among
  rcases among with rfl | rfl
  · exact ⟨wholes.1, ⟨wholes.2, trivial⟩, trivial⟩
  · exact trivial

end RuleScript
