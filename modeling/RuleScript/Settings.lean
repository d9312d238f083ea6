import RuleScript.Decimal.Rounding
import RuleScript.Text.Folding

/-!
What a run is told from outside: how numbers are rounded, how names match, what stands in for a
blank script, and what time it is. Equal settings and equal variables give equal results.
-/
namespace RuleScript

structure Settings where
  /-- Fractional digits kept by multiplication, division and power, and when a number is shown. -/
  scale : Nat
  rounding : Rounding
  /-- Names that differ in case are different names. -/
  caseSensitive : Bool
  /-- The script run in place of a blank one. -/
  defaultSource : String
  /-- Milliseconds since the start of 1970. -/
  now : Int

namespace Settings

/-- Ten fractional digits, half to even, exact names, `null` for a blank script. -/
def standard (now : Int) : Settings :=
  ⟨10, .halfEven, true, "null", now⟩

/-- The settings with another scale, at most the largest that a number can carry. -/
def withScale (settings : Settings) (scale : Nat) : Settings :=
  { settings with scale := min scale Decimal.maxScale }

/-- The number with the fractional digits that the settings keep. -/
def round (settings : Settings) (n : Decimal) : Decimal :=
  n.round settings.rounding settings.scale

end Settings

/-- A name as it is looked up: as it stands when case counts, in lower case otherwise. -/
def foldName (caseSensitive : Bool) (name : String) : String :=
  if caseSensitive then name else Text.lower name

/-- Two names mean the same entry. -/
def sameName (caseSensitive : Bool) (a b : String) : Bool :=
  foldName caseSensitive a == foldName caseSensitive b

end RuleScript
