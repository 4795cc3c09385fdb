/-!
# Nesting

How deeply the parts of a pattern stand in each other.  A pattern that is nested too
deeply is not understood, whatever its parts are.
-/

namespace TableQuery
namespace Journal
namespace Pattern

/-- No pattern is nested more deeply. -/
def depthLimit : Nat := 250

/-- Things in a row: how many they are, and the depth of the deepest. -/
structure Series where
  count : Nat
  deepest : Nat
  deriving Repr, DecidableEq

namespace Series

def empty : Series :=
  { count := 0, deepest := 0 }

def add (s : Series) (depth : Nat) : Series :=
  { count := s.count + 1, deepest := max s.deepest depth }

/-- Several things stand one level below the series that they make, but a single thing
stands for itself. -/
def depth (s : Series) : Nat :=
  if s.count ≤ 1 then s.deepest else s.deepest + 1

end Series

end Pattern
end Journal
end TableQuery
