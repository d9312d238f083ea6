import RuleScript.Decimal.Printer
import RuleScript.Double.Nearest

/-!
The fewest decimal digits that read back as a given double. For one digit, two digits and so on,
the two neighbours of the value on that grid are held against the interval of reals that round to
it; the first grid with a hit wins, and of two hits the nearer.
-/
namespace RuleScript.Double

/-- A positive number `digits · 10 ^ exponent`. -/
structure Scientific where
  digits : Nat
  exponent : Int

/-- The reals that round to a double, on a grid fine enough to hold its ends: the value is
`value · unit`, the ends are `low · unit` and `high · unit`, and they belong to the interval when
the significand is even. The unit is `unitNum / unitDen`. -/
structure Interval where
  low : Nat
  value : Nat
  high : Nat
  closed : Bool
  unitNum : Nat
  unitDen : Nat

/-- The interval of a positive double. Below a power of two the next double is half as far. -/
def interval (parts : Parts) : Interval :=
  let m := parts.significand
  let edge := m = 0x10000000000000 && decide (-1074 < parts.exponent)
  let q := parts.exponent - 2
  ⟨4 * m - (if edge then 1 else 2), 4 * m, 4 * m + 2, m % 2 = 0,
    twoPow q.toNat, twoPow (-q).toNat⟩

/-- A number `num / den` lies in the interval. -/
def Interval.holds (i : Interval) (num den : Nat) : Bool :=
  let point := num * i.unitDen
  let low := i.low * i.unitNum * den
  let high := i.high * i.unitNum * den
  if i.closed then low ≤ point && point ≤ high else low < point && point < high

/-- The numerator and denominator of a power of ten. -/
def powerOfTen (exponent : Int) : Nat × Nat :=
  (tenPow exponent.toNat, tenPow (-exponent).toNat)

/-- The neighbour of the value on the grid of a power of ten that lies in the interval. -/
def onGrid? (i : Interval) (exponent : Int) : Option Scientific :=
  let (tenNum, tenDen) := powerOfTen exponent
  let num := i.value * i.unitNum * tenDen
  let den := i.unitDen * tenNum
  let below := num / den
  let rest := num % den
  let belowHit := i.holds (below * tenNum) tenDen
  let aboveHit := i.holds ((below + 1) * tenNum) tenDen
  let belowNearer := 2 * rest < den || (2 * rest == den && below % 2 == 0)
  if belowHit && (belowNearer || !aboveHit) then some ⟨below, exponent⟩
  else if aboveHit then some ⟨below + 1, exponent⟩
  else none

/-- The first hit with the given exponent or a smaller one. -/
def firstHit (i : Interval) (exponent : Int) : (grids : Nat) → Scientific
  | 0 => ⟨i.value * i.unitNum / i.unitDen, 0⟩
  | grids + 1 =>
    match onGrid? i exponent with
    | some found => found
    | none => firstHit i (exponent - 1) grids

/-- The place of the first digit of `num / den` below the point, when it has no whole part. -/
def firstPlace (num den : Nat) : (limit : Nat) → Nat
  | 0 => 0
  | limit + 1 => if den ≤ num * 10 then 1 else firstPlace (num * 10) den limit + 1

/-- The exponent of the first digit of `num / den`. -/
def leadingExponent (num den : Nat) : Int :=
  if den ≤ num then ((Decimal.digits (num / den)).length : Int) - 1
  else -(firstPlace num den 330 : Int)

/-- Takes zeros off the end of the digits. -/
def Scientific.strip : (limit : Nat) → Scientific → Scientific
  | 0, s => s
  | limit + 1, s =>
    if s.digits % 10 = 0 && s.digits != 0 then strip limit ⟨s.digits / 10, s.exponent + 1⟩ else s

/-- The fewest digits for the magnitude of a double other than zero. -/
def shortest (parts : Parts) : Scientific :=
  let i := interval parts
  let leading := leadingExponent (i.value * i.unitNum) i.unitDen
  (firstHit i leading 18).strip 20

/-- How a number is written: positionally while the exponent of its first digit is within these
bounds. -/
structure Format where
  leastExponent : Int
  mostExponent : Int

/-- Digits with a point; a number without a fraction keeps one zero behind it. -/
def positional (digits : List Char) (leading : Int) : List Char :=
  if leading < 0 then '0' :: '.' :: (List.replicate (-leading - 1).toNat '0' ++ digits)
  else
    let whole := leading.toNat + 1
    let padded := digits ++ List.replicate (whole - digits.length) '0'
    let fraction := padded.drop whole
    padded.take whole ++ '.' :: (if fraction.isEmpty then ['0'] else fraction)

/-- Digits with an exponent, whose sign is always written. -/
def exponential (digits : List Char) (leading : Int) : List Char :=
  let mantissa := match digits with
    | first :: second :: rest => first :: '.' :: second :: rest
    | short => short
  mantissa ++ 'e' :: (if leading < 0 then '-' else '+') :: Decimal.digits leading.natAbs

/-- The text of a finite double. -/
def write (format : Format) (parts : Parts) : String :=
  let magnitude :=
    if parts.significand = 0 then ['0', '.', '0']
    else
      let s := shortest parts
      let digits := Decimal.digits s.digits
      let leading := s.exponent + digits.length - 1
      if format.leastExponent ≤ leading ∧ leading ≤ format.mostExponent then
        positional digits leading
      else exponential digits leading
  String.ofList (if parts.negative then '-' :: magnitude else magnitude)

end RuleScript.Double
