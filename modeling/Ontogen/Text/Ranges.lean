/-!
# Character classes as tables of ranges

A class of characters is written down as a list of closed ranges of code
points. The classes of whitespace and of printable characters are such tables.
-/

namespace Ontogen.Text

/-- The first and the last code point of a run of characters. -/
abbrev Range := Nat × Nat

/-- A code point is in the table when one of its ranges holds it. -/
def inRanges (table : List Range) (n : Nat) : Bool :=
  table.any fun r => r.1 ≤ n && n ≤ r.2

theorem inRanges_nil (n : Nat) : inRanges [] n = false := rfl

theorem inRanges_cons (r : Range) (table : List Range) (n : Nat) :
    inRanges (r :: table) n = (decide (r.1 ≤ n ∧ n ≤ r.2) || inRanges table n) := by
  simp [inRanges, Bool.decide_and]

end Ontogen.Text
