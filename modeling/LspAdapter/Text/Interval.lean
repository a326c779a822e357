/-!
# Sets of code points

A property of characters is a list of closed intervals of code points.  The
tables beside this module hold such lists; membership is a plain search.
-/

namespace LspAdapter.Text

structure Interval where
  first : Nat
  last : Nat
  deriving DecidableEq, Repr

namespace Interval

def holds (i : Interval) (n : Nat) : Bool :=
  i.first ≤ n && n ≤ i.last

def anyHolds (table : List Interval) (n : Nat) : Bool :=
  table.any (·.holds n)

@[simp] theorem holds_iff (i : Interval) (n : Nat) :
    i.holds n = true ↔ i.first ≤ n ∧ n ≤ i.last := by
  simp [holds]

theorem anyHolds_iff (table : List Interval) (n : Nat) :
    anyHolds table n = true ↔ ∃ i ∈ table, i.first ≤ n ∧ n ≤ i.last := by
  simp [anyHolds]

end Interval

end LspAdapter.Text
