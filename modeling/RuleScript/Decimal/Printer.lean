import RuleScript.Decimal.Basic

/-!
The text of a number: no exponent, no zero at the end of a fraction, no point without a fraction
and no sign on zero.
-/
namespace RuleScript.Decimal

/-- Decimal digits of a number, the highest first. -/
def digits (n : Nat) : List Char :=
  Nat.toDigits 10 n

/-- The last `width` digits of a fraction, with zeros in front where it has fewer. -/
def fractionDigits (width n : Nat) : List Char :=
  List.replicate (width - (digits n).length) '0' ++ digits n

/-- The digits of `coefficient / 10 ^ scale` with every fractional digit. -/
def plainDigits (coefficient scale : Nat) : List Char :=
  if scale = 0 then digits coefficient
  else
    digits (coefficient / tenPow scale) ++
      '.' :: fractionDigits scale (coefficient % tenPow scale)

/-- The text of the number as characters. -/
def toChars (d : Decimal) : List Char :=
  let shortest := d.normalize
  let magnitude := plainDigits shortest.coefficient shortest.scale
  if d.negative && !d.isZero then '-' :: magnitude else magnitude

/-- The text of the number. -/
def toText (d : Decimal) : String :=
  String.ofList d.toChars

end RuleScript.Decimal
