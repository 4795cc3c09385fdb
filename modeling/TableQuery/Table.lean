import TableQuery.Row

/-!
# Tables

A table declares its columns apart from its rows: an empty table still has them,
and a row may lack some.
-/

namespace TableQuery

structure Table where
  name : String
  columns : List String
  rows : List Row
  deriving Inhabited, BEq

namespace Table

/-- The table of the given rows, with the columns of the first one. -/
def ofRows (name : String) (rows : List Row) : Table :=
  { name, columns := (rows.head?.map Row.keys).getD [], rows }

def nullRow (t : Table) : Row :=
  Row.ofList (t.columns.map fun column => (column, .null))

def columnCount (t : Table) : Nat :=
  t.columns.length

/-- The row of texts given by position, as far as there are columns and texts. -/
def rowOfTexts (columns texts : List String) : Row :=
  Row.ofList ((columns.zip texts).map fun pair => (pair.1, .text pair.2))

end Table

/-- The outcome of a query: labels in the order requested, and rows keyed by them. -/
structure ResultTable where
  columns : List String
  rows : List Row
  deriving Inhabited, BEq

namespace ResultTable

/-- A null or absent cell is shown as `NULL`. -/
def cellText : Option Cell → String
  | none => "NULL"
  | some .null => "NULL"
  | some cell => cell.display

def rowText (columns : List String) (row : Row) : String :=
  String.intercalate "\t" (columns.map fun column => cellText (row.get? column))

/-- The header and then one line for each row, with tabs between the cells. -/
def text (r : ResultTable) : String :=
  String.intercalate "\n"
    (String.intercalate "\t" r.columns :: r.rows.map (rowText r.columns))

end ResultTable
end TableQuery
