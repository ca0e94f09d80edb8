/-!
Classes of characters given as ranges of code points, both ends included.
-/

set_option autoImplicit false

namespace ScopedSql.Text

/-- The code points from the first to the second number, both included. -/
abbrev CodeRange := Nat × Nat

def CodeRange.holds (range : CodeRange) (code : Nat) : Bool :=
  range.1 ≤ code && code ≤ range.2

def covers (ranges : List CodeRange) (code : Nat) : Bool :=
  ranges.any fun range => range.holds code

end ScopedSql.Text
