/-!
# SqlPlan — ranges of characters

A property of characters is kept as the list of the ranges that have it, first
and last code point of each. The properties are those of Unicode 17.
-/

namespace SqlPlan.Text

/-- Ranges of code points, ends included. -/
abbrev Ranges := List (Nat × Nat)

/-- The character lies in one of the ranges. -/
def Ranges.contains (ranges : Ranges) (c : Char) : Bool :=
  ranges.any fun r => r.1 ≤ c.toNat && c.toNat ≤ r.2

end SqlPlan.Text
