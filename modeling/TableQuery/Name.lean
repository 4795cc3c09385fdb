import TableQuery.Text.Cut

/-!
# Qualified names

A name may carry the table that it belongs to, before its first dot.
-/

namespace TableQuery
namespace Name

/-- The table that a qualified name belongs to. -/
def owner? (name : String) : Option String :=
  (Text.cut? '.' name.toList).map fun parts => String.ofList parts.1

def column? (name : String) : Option String :=
  (Text.cut? '.' name.toList).map fun parts => String.ofList parts.2

def qualify (table column : String) : String :=
  table ++ "." ++ column

end Name
end TableQuery
