/-!
# Text/Ranges — sets of characters given as ranges of code points

The character classes of this library follow the Unicode standard, so most of them are tables. A
table is a list of ranges of code points; a character belongs to it when one range holds its code
point.
-/

namespace Recast.Text

/-- A set of characters, given as ranges of code points with both ends included. -/
abbrev Ranges := List (Nat × Nat)

/-- Some range of the set holds the code point of `c`. -/
def Ranges.holds (ranges : Ranges) (c : Char) : Bool :=
  ranges.any fun range => range.1 ≤ c.toNat && c.toNat ≤ range.2

/-- Ranges hold the characters whose codes lie in one of them, ends included. -/
theorem Ranges.holds_iff {ranges : Ranges} {c : Char} :
    ranges.holds c = true ↔ ∃ range ∈ ranges, range.1 ≤ c.toNat ∧ c.toNat ≤ range.2 := by
  simp [Ranges.holds]

end Recast.Text
