/-
  Sets of characters as ranges of code points, for the properties that the Unicode standard
  gives as tables.
-/
namespace Verdict.Text

/-- The first and the last code point of each range. -/
abbrev Ranges := List (Nat × Nat)

/-- The code point of `c` lies in one of the ranges. -/
def Ranges.contains (rs : Ranges) (c : Char) : Bool :=
  rs.any fun r => decide (r.1 ≤ c.toNat) && decide (c.toNat ≤ r.2)

end Verdict.Text
