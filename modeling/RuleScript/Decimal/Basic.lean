import RuleScript.Bounds

/-!
Decimal numbers: a sign, a coefficient of at most 96 bits and a scale of at most 28, standing for
`± coefficient / 10 ^ scale`. One value has several representations, and zero has a sign; both
differences show only through the operations that look at them.
-/
namespace RuleScript

/-- Coefficients lie below this bound. -/
abbrev Decimal.coefficientBound : Nat := 0x1000000000000000000000000

/-- The largest number of fractional digits. -/
abbrev Decimal.maxScale : Nat := 28

structure Decimal where
  negative : Bool
  coefficient : Nat
  scale : Nat
  coefficient_lt : coefficient < Decimal.coefficientBound
  scale_le : scale ≤ Decimal.maxScale
  deriving DecidableEq, Repr

namespace Decimal

/-- A number below the bound, as a decimal without fractional digits. -/
def ofNatLT (n : Nat) (bound : n < coefficientBound) : Decimal :=
  ⟨false, n, 0, bound, Nat.zero_le _⟩

def zero : Decimal := ofNatLT 0 (by decide)

def one : Decimal := ofNatLT 1 (by decide)

def two : Decimal := ofNatLT 2 (by decide)

instance : Inhabited Decimal := ⟨zero⟩

/-- A whole number; one that needs more than 96 bits gives the nearest decimal. -/
def ofInt (n : Int) : Decimal :=
  ⟨decide (n < 0), min n.natAbs (coefficientBound - 1), 0,
    Nat.lt_of_le_of_lt (Nat.min_le_right _ _) (by decide), Nat.zero_le _⟩

/-- The number that opens with the digits of pi. -/
def pi : Decimal :=
  ⟨false, 31415926535897932384626433833, 28, by decide, by decide⟩

/-- The number that opens with the digits of Euler's number. -/
def euler : Decimal :=
  ⟨false, 27182818284590452353602874714, 28, by decide, by decide⟩

def isZero (d : Decimal) : Bool :=
  d.coefficient == 0

/-- The coefficient with the sign of the number. -/
def signed (d : Decimal) : Int :=
  if d.negative then -(d.coefficient : Int) else d.coefficient

/-- The same magnitude with the other sign, also for zero. -/
def neg (d : Decimal) : Decimal :=
  { d with negative := !d.negative }

def abs (d : Decimal) : Decimal :=
  { d with negative := false }

/-- The order of the numbers themselves: representation and sign of zero do not count. -/
def compare (a b : Decimal) : Ordering :=
  Ord.compare (a.signed * tenPow b.scale) (b.signed * tenPow a.scale)

/-- Two decimals stand for the same number. -/
def sameNumber (a b : Decimal) : Bool :=
  a.compare b == .eq

/-- Drops zeros from the end of a coefficient while there are fractional digits to drop. -/
def dropZeros : Nat → Nat → Nat × Nat
  | coefficient, 0 => (coefficient, 0)
  | coefficient, scale + 1 =>
    if coefficient % 10 = 0 then dropZeros (coefficient / 10) scale else (coefficient, scale + 1)

theorem dropZeros_le (coefficient scale : Nat) :
    (dropZeros coefficient scale).1 ≤ coefficient ∧ (dropZeros coefficient scale).2 ≤ scale := by
  induction scale generalizing coefficient with
  | zero => simp [dropZeros]
  | succ scale ih =>
    unfold dropZeros
    split
    · have smaller := ih (coefficient / 10)
      exact ⟨Nat.le_trans smaller.1 (Nat.div_le_self _ _), Nat.le_succ_of_le smaller.2⟩
    · exact ⟨Nat.le_refl _, Nat.le_refl _⟩

/-- The representation of the number with the fewest fractional digits. -/
def normalize (d : Decimal) : Decimal :=
  let shortest := dropZeros d.coefficient d.scale
  ⟨d.negative, shortest.1, shortest.2,
    Nat.lt_of_le_of_lt (dropZeros_le _ _).1 d.coefficient_lt,
    Nat.le_trans (dropZeros_le _ _).2 d.scale_le⟩

end Decimal
end RuleScript
