import Mathlib
import RuleScript.Proofs.Decimal.Written
import RuleScript.Proofs.Json.Reload
import RuleScript.Run.Builtins

/-!
The two texts of a value. One has every digit of its numbers and the other has them rounded; they
are written by recursions of their own, which separate and quote the items of an array alike, so
the second is the first of the rounded value (`Value.render_eq_display`). A number comes back from
either text, and as text and number in turn it is rounded once and then stays.
-/
namespace RuleScript

namespace Value

/-- Rounding its numbers makes no text of a value and takes none away. -/
theorem quoteIfText_rounded (settings : Settings) (value : Value) (written : String) :
    (value.rounded settings).quoteIfText written = value.quoteIfText written := by
  cases value <;> rfl

mutual

theorem render_eq_display (settings : Settings) :
    (value : Value) → value.render settings = (value.rounded settings).display
  | .null => rfl
  | .number _ => rfl
  | .text _ => rfl
  | .boolean _ => rfl
  | .array items => by rw [render, rounded, display, intercalate_renderItems settings items]

theorem intercalate_renderItems (settings : Settings) :
    (items : List Value) → ", ".intercalate (renderItems settings items) =
      displayItems "" (roundedItems settings items)
  | [] => rfl
  | item :: rest => by
    rw [renderItems, roundedItems, displayItems, intercalate_cons_renderItems settings _ rest,
      quoteIfText_rounded, ← render_eq_display settings item, String.empty_append]

/-- Behind a first text each item has a comma in front, as it has where the items are joined. -/
theorem intercalate_cons_renderItems (settings : Settings) (first : String) :
    (items : List Value) → ", ".intercalate (first :: renderItems settings items) =
      first ++ displayItems ", " (roundedItems settings items)
  | [] => by
    rw [renderItems, roundedItems, displayItems, String.intercalate_singleton, String.append_empty]
  | item :: rest => by
    rw [renderItems, roundedItems, displayItems, String.intercalate_cons_cons,
      intercalate_cons_renderItems settings _ rest, quoteIfText_rounded,
      ← render_eq_display settings item]
    simp only [String.append_assoc]

end

end Value

namespace Builtin

theorem apply_toString_number (settings : Settings) (n : Decimal) :
    Builtin.toString.apply settings [.number n] = .ok (.text (settings.round n).toText) := rfl

/-- A number comes back from its text, in its shortest representation. -/
theorem apply_toNumber_text (settings : Settings) (n : Decimal) :
    Builtin.toNumber.apply settings [.text n.toText] =
      .ok (.number n.normalize.unsignedZero) := by
  have read : (Value.text n.toText).number? = some n.normalize.unsignedZero := n.numeral?_toText
  change Except.ok (numberOf (.text n.toText)) = _
  simp only [numberOf, read]

end Builtin

/-- Numbers are written to be read back. The text of a number is read as the number, and its rounded
text as the rounded number; both are plain digits without anything that could be left out. Made into
text and into a number again, a number is rounded, and from then on its text stays. The rounded text
of a value, with arrays inside one another to any depth, is the text of the value with every number
in it rounded. -/
theorem Value.rendering_exact (settings : Settings) :
    (∀ n : Decimal,
      (settings.round n).IsRounded settings.rounding settings.scale n.value ∧
      Decimal.IsWritten ((Value.number n).render settings) (settings.round n).value ∧
      Decimal.IsWritten (Value.number n).display n.value ∧
      (∃ d, Decimal.numeral? (Value.number n).display = some d ∧ d.sameNumber n = true) ∧
      ∃ d, Decimal.numeral? ((Value.number n).render settings) = some d ∧
        d.sameNumber (settings.round n) = true ∧
        (do Builtin.toNumber.apply settings [← Builtin.toString.apply settings [.number n]]) =
          .ok (.number d) ∧
        Builtin.toString.apply settings [.number d] =
          Builtin.toString.apply settings [.number n]) ∧
    ∀ value : Value, value.render settings = (value.rounded settings).display := by
  refine ⟨fun n => ?_, render_eq_display settings⟩
  have rounded := Decimal.isRounded_round settings.rounding settings.scale n
  have back := (settings.round n).value_read_back
  refine ⟨rounded, (settings.round n).isWritten_toText, n.isWritten_toText, ?_, ?_⟩
  · exact ⟨_, n.numeral?_toText, (Decimal.sameNumber_iff_value _ _).2 n.value_read_back⟩
  · refine ⟨_, (settings.round n).numeral?_toText, (Decimal.sameNumber_iff_value _ _).2 back,
      Builtin.apply_toNumber_text settings (settings.round n), ?_⟩
    -- What was read has no more digits than are kept, so rounding it again changes nothing.
    have again := Decimal.isRounded_round settings.rounding settings.scale
      (settings.round n).normalize.unsignedZero
    have short : Decimal.HasPlaces (settings.round n).normalize.unsignedZero.value settings.scale :=
      back ▸ rounded.hasPlaces
    have stays := (again.value_eq_iff.2 short).trans back
    rw [Builtin.apply_toString_number, Builtin.apply_toString_number]
    exact congrArg (fun text => Except.ok (Value.text text)) (Decimal.toText_congr stays)

end RuleScript
