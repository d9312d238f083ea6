/-!
Sets of characters given as ascending, disjoint, closed ranges of code points.
-/
namespace RuleScript.Text

/-- A code point lies in one of the ranges. The table is ascending, so the search stops at the
first range that starts past the code point. -/
def within : List (Nat × Nat) → Nat → Bool
  | [], _ => false
  | (first, last) :: rest, code =>
    if code < first then false else code ≤ last || within rest code

end RuleScript.Text
