import RuleScript.Decimal.Arithmetic
import RuleScript.Text.Blank

/-!
Reading numbers. Digits of a fraction beyond what a decimal can hold are dropped with rounding on
the first of them; a whole part that is too long is refused. Text may also carry an exponent of at
most 28.
-/
namespace RuleScript.Decimal

/-- The value of a decimal digit. -/
def digit? (c : Char) : Option Nat :=
  if c.isDigit then some (c.toNat - '0'.toNat) else none

/-- A sign, a coefficient and a scale, when they are within the bounds of a decimal. Zero has no
sign. -/
def ofParts? (negative : Bool) (coefficient scale : Nat) : Option Decimal :=
  if bounded : coefficient < coefficientBound ∧ scale ≤ maxScale then
    some ⟨negative && coefficient != 0, coefficient, scale, bounded.1, bounded.2⟩
  else none

/-- Drops the digits from `next` on. A coefficient that outgrows its bound by being rounded up
gives up one more digit. -/
def dropFrom? (coefficient scale next : Nat) : Option (Nat × Nat) :=
  if next < 5 then some (coefficient, scale)
  else if coefficient + 1 < coefficientBound then some (coefficient + 1, scale)
  else if scale = 0 then none
  else some ((coefficient + 1 + 4) / 10, scale - 1)

/-- Reads the digits after the point on top of what was read before. What follows the first dropped
digit is not looked at. -/
def readFraction? (coefficient scale : Nat) (hasDigit : Bool) : List Char → Option (Nat × Nat)
  | [] => if hasDigit then some (coefficient, scale) else none
  | c :: rest => do
    let next ← digit? c
    if scale < maxScale ∧ coefficient * 10 + next < coefficientBound then
      readFraction? (coefficient * 10 + next) (scale + 1) true rest
    else dropFrom? coefficient scale next

/-- Reads the digits before the point, and then the fraction. -/
def readWhole? (coefficient : Nat) (hasDigit : Bool) : List Char → Option (Nat × Nat)
  | [] => if hasDigit then some (coefficient, 0) else none
  | c :: rest =>
    if c = '.' then readFraction? coefficient 0 hasDigit rest
    else do
      let next ← digit? c
      if coefficient * 10 + next < coefficientBound then
        readWhole? (coefficient * 10 + next) true rest
      else none

/-- Takes a sign from the front of a text. -/
def splitSign : List Char → Bool × List Char
  | '-' :: rest => (true, rest)
  | '+' :: rest => (false, rest)
  | text => (false, text)

/-- Reads a number without exponent: a sign or none, digits, and a point anywhere among them or
none. -/
def ofChars? (text : List Char) : Option Decimal := do
  let (negative, unsigned) := splitSign text
  let (coefficient, scale) ← readWhole? 0 false unsigned
  ofParts? negative coefficient scale

/-- Reads a number without exponent. -/
def ofText? (text : String) : Option Decimal :=
  ofChars? text.toList

/-- Reads the digits of an exponent, with a plus sign or none in front. -/
def exponentSize? (text : List Char) : Option Nat :=
  let unsigned := match text with
    | '+' :: rest => rest
    | rest => rest
  if unsigned.isEmpty then none
  else do
    let digits ← unsigned.mapM digit?
    pure (digits.foldl (fun size next => size * 10 + next) 0)

/-- The number times ten to the given power. -/
def shift? (d : Decimal) (size : Nat) : Option Decimal :=
  if size ≤ d.scale then ofParts? d.negative d.coefficient (d.scale - size)
  else if maxScale < size then none
  else ofParts? d.negative (d.coefficient * tenPow (size - d.scale)) 0

/-- The number with its point moved by an exponent. A negative exponent only adds fractional
digits, so it may not pass the largest scale. -/
def applyExponent? (d : Decimal) : List Char → Option Decimal
  | '-' :: rest => do
    let size ← exponentSize? rest
    ofParts? d.negative d.coefficient (d.scale + size)
  | text => do d.shift? (← exponentSize? text)

/-- The mark between a number and its exponent. -/
def isExponentMark (c : Char) : Bool :=
  c = 'e' || c = 'E'

/-- Reads a number with an exponent. -/
def ofScientific? (text : List Char) : Option Decimal := do
  let number ← ofChars? (text.takeWhile (!isExponentMark ·))
  number.applyExponent? ((text.dropWhile (!isExponentMark ·)).drop 1)

/-- A character that numeric text may hold. -/
def isNumeric (c : Char) : Bool :=
  c.isDigit || c = '.' || c = '-' || c = '+' || isExponentMark c

/-- The number a text spells, blanks around it aside. -/
def numeral? (text : String) : Option Decimal :=
  let trimmed := Text.trimChars text.toList
  if !trimmed.all isNumeric || !trimmed.any Char.isDigit then none
  else if trimmed.any isExponentMark then ofScientific? trimmed
  else ofChars? trimmed

end RuleScript.Decimal
