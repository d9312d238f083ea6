import RuleScript.Decimal.Rounding

/-!
Addition, subtraction, multiplication, division, whole powers and square roots. Each result is the
exact one, kept with as many fractional digits as fit and rounded half to even in the last of them;
there is no result when the whole part does not fit.
-/
namespace RuleScript.Decimal

/-- The coefficient and scale nearest to `num / den`, with the largest scale up to the limit at
which the coefficient stays below the bound. -/
def nearest? (bound num den : Nat) : (limit : Nat) → Option (Nat × Nat)
  | 0 =>
    let coefficient := Rounding.halfEven.divide false num den
    if coefficient < bound then some (coefficient, 0) else none
  | scale + 1 =>
    let coefficient := Rounding.halfEven.divide false (num * tenPow (scale + 1)) den
    if coefficient < bound then some (coefficient, scale + 1) else nearest? bound num den scale

theorem nearest?_bounds {bound num den limit : Nat} {found : Nat × Nat}
    (success : nearest? bound num den limit = some found) :
    found.1 < bound ∧ found.2 ≤ limit := by
  induction limit with
  | zero =>
    simp only [nearest?] at success
    split at success
    · cases success
      exact ⟨by assumption, Nat.le_refl _⟩
    · cases success
  | succ scale ih =>
    simp only [nearest?] at success
    split at success
    · cases success
      exact ⟨by assumption, Nat.le_refl _⟩
    · exact ⟨(ih success).1, Nat.le_succ_of_le (ih success).2⟩

/-- The decimal nearest to `± num / den` with at most `limit` fractional digits. A result that
rounds to zero has no sign. -/
def ofQuotient? (negative : Bool) (num den limit : Nat) (limited : limit ≤ maxScale) :
    Option Decimal :=
  match found : nearest? coefficientBound num den limit with
  | none => none
  | some (coefficient, scale) =>
    some ⟨negative && coefficient != 0, coefficient, scale, (nearest?_bounds found).1,
      Nat.le_trans (nearest?_bounds found).2 limited⟩

/-- The sum. Adding a zero changes nothing, not even the representation. -/
def add? (a b : Decimal) : Option Decimal :=
  if a.isZero then some b
  else if b.isZero then some a
  else
    let scale := max a.scale b.scale
    let total := a.signed * tenPow (scale - a.scale) + b.signed * tenPow (scale - b.scale)
    ofQuotient? (total < 0) total.natAbs (tenPow scale) scale
      (Nat.max_le.2 ⟨a.scale_le, b.scale_le⟩)

/-- The difference. A zero taken from a zero is left as it is. -/
def sub? (a b : Decimal) : Option Decimal :=
  if a.isZero && b.isZero then some b else add? a b.neg

/-- The product. -/
def mul? (a b : Decimal) : Option Decimal :=
  if a.isZero || b.isZero then some zero
  else
    ofQuotient? (a.negative != b.negative) (a.coefficient * b.coefficient)
      (tenPow (a.scale + b.scale)) (min (a.scale + b.scale) maxScale) (Nat.min_le_right _ _)

/-- The quotient without trailing zeros; there is none by zero. -/
def div? (a b : Decimal) : Option Decimal :=
  if b.isZero then none
  else if a.isZero then some zero
  else
    (ofQuotient? (a.negative != b.negative) (a.coefficient * tenPow b.scale)
      (b.coefficient * tenPow a.scale) maxScale (Nat.le_refl _)).map normalize

/-- `product * power ^ exponent` by squaring from the lowest bit of the exponent on. There is one
squaring less than the exponent has bits, and `bits` bounds their number. -/
def powerBySquaring? {α : Type} (times? : α → α → Option α) :
    (bits : Nat) → (product power : α) → (exponent : Nat) → Option α
  | 0, product, _, _ => some product
  | bits + 1, product, power, exponent => do
    let product ← if exponent % 2 = 1 then times? product power else some product
    if exponent / 2 = 0 then some product
    else powerBySquaring? times? bits product (← times? power power) (exponent / 2)

/-- Coefficients of the intermediate results of long powers lie below this bound. -/
def wideBound : Nat := twoPow 192

/-- The largest scale of the intermediate results of long powers. -/
def wideScale : Nat := 57

/-- The product of two magnitudes given by coefficient and scale, within the wide bounds. -/
def wideMul? (a b : Nat × Nat) : Option (Nat × Nat) :=
  nearest? wideBound (a.1 * b.1) (tenPow (a.2 + b.2)) (min (a.2 + b.2) wideScale)

/-- A power with a whole exponent that is not negative. Long powers are computed with twice the
precision and rounded once more at the end. -/
def pow? (base : Decimal) (exponent : Nat) : Option Decimal :=
  if exponent = 0 then some one
  else if base.isZero then some zero
  else if base.sameNumber one then some one
  else if exponent < 1024 then
    powerBySquaring? mul? (exponent.log2 + 1) one base exponent
  else do
    let (coefficient, scale) ←
      powerBySquaring? wideMul? (exponent.log2 + 1) (1, 0) (base.coefficient, base.scale) exponent
    ofQuotient? (base.negative && exponent % 2 == 1) coefficient (tenPow scale)
      (min scale maxScale) (Nat.min_le_right _ _)

/-- Halves the distance to the square root until a step changes nothing. -/
def improveRoot? (d : Decimal) : (steps : Nat) → (last root : Decimal) → Option Decimal
  | 0, _, _ => none
  | steps + 1, last, root =>
    if last.sameNumber root then some root
    else do
      let sum ← add? root (← div? d root)
      improveRoot? d steps root (← div? sum two)

/-- The square root; there is none with a minus sign, not even of zero. -/
def sqrt? (d : Decimal) : Option Decimal :=
  if d.negative then none
  else if d.isZero then some zero
  else do
    let half ← div? d two
    let root := if half.isZero then d else half
    improveRoot? d 1000 (← add? root one) root

end RuleScript.Decimal
