/-!
# Character classes

A class of characters as a list of code point ranges, both ends included.
-/

namespace TableReconciler.Text

/-- Ranges of code points, both ends included. -/
abbrev CharClass := List (Nat × Nat)

/-- Whether a character lies in one of the ranges. -/
def CharClass.contains (ranges : CharClass) (c : Char) : Bool :=
  ranges.any fun range => range.1 ≤ c.toNat && c.toNat ≤ range.2

/-- A character is in a class when some range holds it. -/
theorem CharClass.contains_iff {ranges : CharClass} {c : Char} :
    ranges.contains c = true ↔ ∃ range ∈ ranges, range.1 ≤ c.toNat ∧ c.toNat ≤ range.2 := by
  simp [CharClass.contains]

end TableReconciler.Text
