import TableQuery.Query.Basic
import TableQuery.Table

/-!
# Joining tables

Two rows match if their cells at the two names of a link are equal.  A join pairs
the rows of the main table with rows of the joined one, and each pair gives a row
that holds the cells which the requested fields read.
-/

namespace TableQuery

namespace Link

/-- Whether two rows belong together.  A null or missing cell matches nothing. -/
def matches? (link : Link) (main joined : Row) : Bool :=
  let left := Cell.coerce? (main.lookup? link.left)
  let right := Cell.coerce? (joined.lookup? link.right)
  !left.isNull && left.compare? right == some .eq

end Link

namespace Joining

/-- Whether a name is read from the main table: names without a table are. -/
def readsMain (table name : String) : Bool :=
  (Name.owner? name).getD table == table

/-- The cell at a name, from the row of the table that it belongs to. -/
def cellFor (table : String) (main : Row) (joined : Option Row) (name : String) : Cell :=
  let source := if readsMain table name then some main else joined
  ((source.bind fun row => row.lookup? name)).getD .null

def sources (fields : List Field) : List String :=
  fields.filterMap Field.source?

def requested (table : String) (fields : List Field) (main : Row) (joined : Option Row) :
    List (String × Cell) :=
  (sources fields).map fun name => (name, cellFor table main joined name)

def qualified (table : String) (main : Row) : List (String × Cell) :=
  main.entries.map fun entry => (Name.qualify table entry.1, entry.2)

/-- A pair of an inner join: the requested cells alone. -/
def narrowRow (table : String) (fields : List Field) (main : Row) (joined : Option Row) : Row :=
  Row.ofList (requested table fields main joined)

/-- A pair of an outer join: all cells of the main row, then the requested ones. -/
def wideRow (table : String) (fields : List Field) (main : Row) (joined : Option Row) : Row :=
  (Row.ofList (qualified table main)).insertAll (requested table fields main joined)

/-- The rows that match a row of the main table, in their order. -/
def partners (link : Link) (joined : List Row) (main : Row) : List Row :=
  joined.filter fun row => link.matches? main row

/-- One row for each matching pair, by rows of the main table. -/
def innerJoin (main : Table) (joined : List Row) (link : Link) (fields : List Field) :
    List Row :=
  main.rows.flatMap fun row =>
    (partners link joined row).map fun partner =>
      narrowRow main.name fields row (some partner)

def leftRows (table : String) (joined : List Row) (link : Link) (fields : List Field)
    (row : Row) : List Row :=
  match partners link joined row with
  | [] => [wideRow table fields row none]
  | found => found.map fun partner => wideRow table fields row (some partner)

/-- One row for each matching pair, and one for each row of the main table that
matches none. -/
def leftJoin (main : Table) (joined : List Row) (link : Link) (fields : List Field) :
    List Row :=
  main.rows.flatMap (leftRows main.name joined link fields)

/-- The row that one row of the joined table gives to a right join: with the first row
of the main table that it matches, or with nulls if there is none. -/
def rightRow (main : Table) (link : Link) (fields : List Field) (row : Row) : Row :=
  let partner := (main.rows.find? fun candidate => link.matches? candidate row).getD
    main.nullRow
  wideRow main.name fields partner (some row)

def rightJoin (main : Table) (joined : List Row) (link : Link) (fields : List Field) :
    List Row :=
  joined.map (rightRow main link fields)

end Joining

/-- The rows of a join, with the left side of the link on the main table. -/
def joinRows (kind : JoinKind) (main : Table) (joined : List Row) (link : Link)
    (fields : List Field) : List Row :=
  match kind with
  | .inner => Joining.innerJoin main joined link fields
  | .left => Joining.leftJoin main joined link fields
  | .right => Joining.rightJoin main joined link fields

end TableQuery
