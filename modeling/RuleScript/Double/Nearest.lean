import RuleScript.Bounds
import RuleScript.Rounding

/-!
The double nearest to a fraction, half to even, computed on whole numbers. The words of positive
doubles are in the order of their values, so the word of `m · 2 ^ q` is found by adding `m` to the
word of the binade below it, and a significand that rounds up to the next binade needs no care.
-/
namespace RuleScript.Double

/-- The word of positive infinity. -/
def infinityWord : Nat := 0x7FF0000000000000

/-- The exponent of the last bit of the significand of `num / den`. -/
def lastBit (num den : Nat) : Int :=
  let estimate : Int := (num.log2 : Int) - den.log2
  let reaches := if 0 ≤ estimate then den * twoPow estimate.toNat ≤ num
    else den ≤ num * twoPow (-estimate).toNat
  max ((if reaches then estimate else estimate - 1) - 52) (-1074)

/-- The word of the double nearest to `num / den`, for a positive divisor. -/
def nearestWord (num den : Nat) : Nat :=
  if num = 0 then 0
  else
    let q := lastBit num den
    let significand := if 0 ≤ q then Rounding.halfEven.divide false num (den * twoPow q.toNat)
      else Rounding.halfEven.divide false (num * twoPow (-q).toNat) den
    min ((q + 1074).toNat * 0x10000000000000 + significand) infinityWord

/-- The double nearest to `num / den`, for a positive divisor. -/
def nearest (num den : Nat) : Float :=
  Float.ofBits (nearestWord num den).toUInt64

/-- The double nearest to a whole number. -/
def ofNat (n : Nat) : Float :=
  nearest n 1

/-- A finite double taken apart: its sign, and its magnitude as `significand · 2 ^ exponent`. -/
structure Parts where
  negative : Bool
  significand : Nat
  exponent : Int

/-- Takes a double apart; there is nothing to take apart in an infinity or a NaN. -/
def parts? (x : Float) : Option Parts :=
  let word := x.toBits.toNat
  let fraction : Nat := word % 0x10000000000000
  let binade : Nat := word / 0x10000000000000 % 0x800
  let negative := decide (0x8000000000000000 ≤ word)
  if binade = 0x7FF then none
  else if binade = 0 then some ⟨negative, fraction, -1074⟩
  else some ⟨negative, 0x10000000000000 + fraction, (binade : Int) - 1075⟩

end RuleScript.Double
