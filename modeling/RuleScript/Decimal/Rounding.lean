import RuleScript.Decimal.Basic
import RuleScript.Rounding

/-!
Decimals with fewer fractional digits, and whole numbers taken from decimals.
-/
namespace RuleScript.Decimal

/-- The number with at most `places` fractional digits. The sign stays, also on a result of
zero. -/
def cut (mode : Rounding) (places : Nat) (d : Decimal) : Decimal :=
  if fewer : places < d.scale then
    ⟨d.negative, mode.divide d.negative d.coefficient (tenPow (d.scale - places)), places, by
      refine Nat.lt_of_le_of_lt (Rounding.divide_le _ _ _ _ ?_) d.coefficient_lt
      have power : 10 ≤ tenPow (d.scale - places) := ten_le_tenPow (by omega)
      omega,
      Nat.le_trans (Nat.le_of_lt fewer) d.scale_le⟩
  else d

/-- The whole number toward zero. -/
def trunc (d : Decimal) : Decimal := d.cut .down 0

/-- The largest whole number that is not above. -/
def floor (d : Decimal) : Decimal := d.cut .floor 0

/-- The smallest whole number that is not below. -/
def ceil (d : Decimal) : Decimal := d.cut .ceiling 0

/-- A zero of the same sign with so many fractional digits. -/
def zeroWith (places : Nat) (d : Decimal) : Decimal :=
  ⟨d.negative, 0, min places maxScale, zero.coefficient_lt, Nat.min_le_right _ _⟩

/-- The number without its sign when it is zero. -/
def unsignedZero (d : Decimal) : Decimal :=
  { d with negative := d.negative && !d.isZero }

/-- The number rounded to at most `places` fractional digits. A zero keeps its sign and gets all of
the digits; another number that becomes zero has no sign. -/
def round (mode : Rounding) (places : Nat) (d : Decimal) : Decimal :=
  if d.isZero then d.zeroWith places else (d.cut mode places).unsignedZero

/-- The number has no fractional part. -/
def isWhole (d : Decimal) : Bool :=
  d.coefficient % tenPow d.scale == 0

/-- The whole number toward zero, when it fits in 64 bits with a sign. -/
def toInt64? (d : Decimal) : Option Int :=
  let magnitude : Int := (d.coefficient / tenPow d.scale : Nat)
  let whole := if d.negative then -magnitude else magnitude
  if fitsInt64 whole then some whole else none

end RuleScript.Decimal
