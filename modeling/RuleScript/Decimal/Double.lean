import RuleScript.Decimal.Reader
import RuleScript.Double.Nearest

/-!
Between decimals and doubles. Functions without a decimal form of their own (logarithms, powers
with a fraction, trigonometry) go through doubles and back.
-/
namespace RuleScript.Decimal

/-- A power of ten in double arithmetic, by squaring from the lowest bit on. -/
def doublePower (result base : Float) : (bits exponent : Nat) → Float
  | 0, _ => result
  | bits + 1, exponent =>
    if exponent = 0 then result
    else
      doublePower (if exponent % 2 = 1 then result * base else result) (base * base) bits
        (exponent / 2)

/-- The double for a decimal. With a fraction, the sum of both parts is brought back to a whole
number of last digits. -/
def toDouble (d : Decimal) : Float :=
  if d.scale = 0 then
    let magnitude := Double.ofNat d.coefficient
    if d.negative && !d.isZero then -magnitude else magnitude
  else
    let whole := Double.ofNat (d.coefficient / tenPow d.scale)
    let rest := d.coefficient % tenPow d.scale
    let magnitude :=
      if rest = 0 then whole
      else
        let fraction := Double.ofNat rest / Double.ofNat (tenPow d.scale)
        let unit := doublePower 1.0 10.0 6 d.scale
        ((whole + fraction) * unit).round / unit
    if d.negative then -magnitude else magnitude

/-- A coefficient on its way from base two to base ten: `coefficient · 10 ^ exponent`, with powers
of five still to come. -/
structure Conversion where
  coefficient : Nat
  exponent : Int

namespace Conversion

/-- Works off factors of one half: an even coefficient is halved, another is multiplied by five
where it fits. -/
def halve : (count : Nat) → Conversion → Conversion
  | 0, state => state
  | count + 1, state =>
    if state.coefficient % 2 = 0 then
      halve count ⟨state.coefficient / 2, state.exponent + 1⟩
    else if state.coefficient * 5 < coefficientBound then
      halve count ⟨state.coefficient * 5, state.exponent⟩
    else halve count ⟨state.coefficient / 2, state.exponent + 1⟩

/-- Works off factors of two; fails once doubling no longer fits and too many are left. -/
def double? : (count : Nat) → Conversion → Option Conversion
  | 0, state => some state
  | count + 1, state =>
    if state.coefficient < 0x800000000000000000000000 then
      double? count ⟨state.coefficient * 2, state.exponent - 1⟩
    else if ((count + 1 : Nat) : Int) < state.exponent * 2 then none
    else double? count ⟨state.coefficient / 5, state.exponent⟩

/-- Works off a positive power of ten. -/
def raise? : (count : Nat) → Conversion → Option Conversion
  | 0, state => some state
  | count + 1, state =>
    if state.coefficient * 10 < coefficientBound then
      raise? count ⟨state.coefficient * 10, state.exponent - 1⟩
    else none

/-- Divides by ten, half up. -/
def tenth (coefficient : Nat) : Nat :=
  coefficient / 10 + (if 5 ≤ coefficient % 10 then 1 else 0)

/-- Drops fractional digits past the largest scale. A coefficient that reaches zero ends it. -/
def dropPastScale : (count : Nat) → Conversion → Conversion
  | 0, state => state
  | count + 1, state =>
    if state.coefficient / 10 = 0 then ⟨0, 0⟩
    else dropPastScale count ⟨tenth state.coefficient, state.exponent + 1⟩

/-- Drops fractional digits that a double does not carry. -/
def dropPastPrecision : (count : Nat) → Conversion → Conversion
  | 0, state => state
  | count + 1, state =>
    if 0x10000000000000 ≤ state.coefficient then
      dropPastPrecision count ⟨tenth state.coefficient, state.exponent + 1⟩
    else state

end Conversion

/-- The decimal for a double: about as many digits as the double carries, without trailing zeros.
There is none for an infinity, a NaN, or a magnitude out of range. -/
def ofDouble? (x : Float) : Option Decimal := do
  let parts ← Double.parts? x
  if parts.significand = 0 then
    some { zero with negative := parts.negative }
  else
    let start : Conversion := ⟨parts.significand, parts.exponent⟩
    let state ← if parts.exponent < 0 then some (start.halve (-parts.exponent).toNat)
      else start.double? parts.exponent.toNat
    let state ← state.raise? state.exponent.toNat
    let state := state.dropPastScale (-28 - state.exponent).toNat
    let state := state.dropPastPrecision (-state.exponent).toNat
    let shortest := dropZeros state.coefficient (-state.exponent).toNat
    let number ← ofParts? false shortest.1 shortest.2
    pure { number with negative := parts.negative }

end RuleScript.Decimal
