import RuleScript.Text.Folding

/-!
Rounding to a whole number. A mode decides whether a magnitude that is cut off is left or raised by
one; it may look at the sign, at the last kept digit and at how the rest compares with one half.
-/
namespace RuleScript

/-- How a number is cut down to fewer fractional digits. -/
inductive Rounding
  | halfEven
  | halfUp
  | halfDown
  | up
  | down
  | ceiling
  | floor
  deriving DecidableEq, Repr

namespace Rounding

/-- The mode with a given name. Case does not count, and an underscore stands for a hyphen. -/
def ofName? (name : String) : Option Rounding :=
  match String.ofList ((Text.lower name).toList.map fun c => if c = '_' then '-' else c) with
  | "half-even" => some .halfEven
  | "bankers" => some .halfEven
  | "half-up" => some .halfUp
  | "half-down" => some .halfDown
  | "up" => some .up
  | "down" => some .down
  | "ceiling" => some .ceiling
  | "floor" => some .floor
  | _ => none

/-- The magnitude `quotient + rest / den` of a number with the given sign is raised to the next
whole number. -/
def raises (mode : Rounding) (negative : Bool) (quotient rest den : Nat) : Bool :=
  match mode with
  | .halfEven => den < 2 * rest || (2 * rest == den && quotient % 2 == 1)
  | .halfUp => den ≤ 2 * rest
  | .halfDown => den < 2 * rest
  | .up => 0 < rest
  | .down => false
  | .ceiling => 0 < rest && !negative
  | .floor => 0 < rest && negative

/-- The magnitude `num / den` of a number with the given sign, as a whole number. -/
def divide (mode : Rounding) (negative : Bool) (num den : Nat) : Nat :=
  if mode.raises negative (num / den) (num % den) den then num / den + 1 else num / den

/-- Nothing is raised past the number it was divided from. -/
theorem divide_le (mode : Rounding) (negative : Bool) (num den : Nat) (divisor : 2 ≤ den) :
    mode.divide negative num den ≤ num := by
  by_cases zero : num = 0
  · subst zero
    cases mode <;> cases negative <;> simp [divide, raises] <;> omega
  · have bound : num / den ≤ num / 2 := Nat.div_le_div_left divisor (by decide)
    unfold divide
    split <;> omega

end Rounding
end RuleScript
