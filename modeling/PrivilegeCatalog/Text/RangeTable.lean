/-!
# Tables of code point ranges

A property of characters that a standard gives by enumeration is held as a list of closed ranges
in increasing order. `RangeTable.contains` is the property itself.
-/

namespace PrivilegeCatalog.Text

/-- Closed ranges of code points, in increasing order and pairwise apart. -/
abbrev RangeTable := List (Nat × Nat)

/-- A code point has the property when one of the ranges holds it. -/
def RangeTable.contains (table : RangeTable) (n : Nat) : Bool :=
  table.any fun range => range.1 ≤ n && n ≤ range.2

end PrivilegeCatalog.Text
