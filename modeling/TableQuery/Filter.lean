import TableQuery.Query.Basic
import TableQuery.Table

/-!
# Choosing rows

A condition compares the cell at its field with its literal.  Both are read as a
number wherever they can be.
-/

namespace TableQuery

namespace Condition

def holds (condition : Condition) (row : Row) : Bool :=
  condition.op.holds
    ((Cell.coerce? (row.get? condition.field)).compare? (Cell.ofLiteral condition.literal))

end Condition

def meetsAll (conditions : List Condition) (row : Row) : Bool :=
  conditions.all fun condition => condition.holds row

def chooseRows (conditions : List Condition) (rows : List Row) : List Row :=
  rows.filter (meetsAll conditions)

end TableQuery
