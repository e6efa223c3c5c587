/-!
# Sets of characters by their boundaries

A set of code points is kept as the increasing list of places where membership changes, starting outside the
set. A code point belongs to the set when an odd number of boundaries lie at or below it.
-/

namespace GoldenBench.Text.Table

/-- The code points at which a set of characters begins and ends, alternately. -/
abbrev Boundaries := Array Nat

/-- The number of boundaries at or below `n`, of those before `hi`, knowing that the first `lo` are. -/
def Boundaries.rank (table : Boundaries) (n lo hi : Nat) : Nat :=
  if lo < hi then
    let mid := (lo + hi) / 2
    if table.getD mid 0 ≤ n then table.rank n (mid + 1) hi else table.rank n lo mid
  else lo
termination_by hi - lo

/-- A character belongs to the set. -/
def Boundaries.contains (table : Boundaries) (c : Char) : Bool :=
  table.rank c.toNat 0 table.size % 2 == 1

end GoldenBench.Text.Table
