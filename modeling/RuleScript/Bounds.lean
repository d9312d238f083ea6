/-!
Powers of ten and of two, and the range of whole numbers of 64 bits.
-/
namespace RuleScript

/-- Ten to a power. -/
def tenPow (n : Nat) : Nat := Nat.pow 10 n

/-- Two to a power. -/
def twoPow (n : Nat) : Nat := Nat.pow 2 n

@[simp] theorem tenPow_zero : tenPow 0 = 1 := rfl

theorem tenPow_succ (n : Nat) : tenPow (n + 1) = tenPow n * 10 := rfl

theorem tenPow_pos (n : Nat) : 0 < tenPow n :=
  Nat.pow_pos (by decide)

theorem ten_le_tenPow {n : Nat} (positive : 0 < n) : 10 ≤ tenPow n := by
  obtain ⟨m, rfl⟩ := Nat.exists_eq_succ_of_ne_zero (Nat.ne_of_gt positive)
  have power := tenPow_pos m
  rw [Nat.succ_eq_add_one, tenPow_succ]
  omega

/-- A number that fits in 64 bits with a sign. -/
def fitsInt64 (n : Int) : Bool :=
  -0x8000000000000000 ≤ n && n < 0x8000000000000000

end RuleScript
