/-!
# Sets of characters

A property of the Unicode standard is a set of code points, given by its ranges.

* `CharSet.contains`: membership.
* `CharSet.contains_iff`: a character is in the set when some range holds its code point.
-/

namespace Postprocessor.Text

/-- A set of characters: the closed ranges of its code points, in ascending order. -/
structure CharSet where
  ranges : List (Nat × Nat)

namespace CharSet

/-- Whether `c` lies in one of the ranges. -/
def contains (s : CharSet) (c : Char) : Bool :=
  s.ranges.any fun r => r.1 ≤ c.toNat && c.toNat ≤ r.2

theorem contains_iff {s : CharSet} {c : Char} :
    s.contains c = true ↔ ∃ r ∈ s.ranges, r.1 ≤ c.toNat ∧ c.toNat ≤ r.2 := by
  simp [contains]

end CharSet

end Postprocessor.Text
