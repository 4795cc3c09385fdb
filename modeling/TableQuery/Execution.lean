import TableQuery.Error
import TableQuery.Filter
import TableQuery.Grouping
import TableQuery.Joining

/-!
# Running queries

A query loads its tables, joins them, chooses rows, and then projects or
aggregates them.  The first step that fails ends it.
-/

namespace TableQuery

abbrev Source :=
  String → Except QueryError Table

/-- The row with exactly the given labels; a label that the row lacks is null. -/
def projectRow (labels : List String) (row : Row) : Row :=
  Row.ofList (labels.map fun label => (label, row.getD label))

def projectRows (fields : List Field) (rows : List Row) : List Row :=
  rows.map (projectRow (fields.map Field.label))

namespace Query

/-- The rows of the main table, joined with those of the joined one if there is one. -/
def loadRows (q : Query) (source : Source) : Except QueryError (List Row) := do
  let main ← source q.table
  match q.join with
  | none => pure main.rows
  | some join => do
      let joined ← source join.table
      pure (joinRows join.kind main joined.rows (join.link.oriented q.table join.table) q.fields)

def shape (q : Query) (rows : List Row) : List Row :=
  if q.isSummary then
    [Grouping.summary rows q.fields]
  else
    match q.groupBy with
    | some names => Grouping.groupRows (some names) false q.fields rows
    | none => projectRows q.fields rows

def run (q : Query) (source : Source) : Except QueryError (List Row) := do
  let rows ← q.loadRows source
  pure (q.shape (chooseRows q.conditions rows))

end Query

def parseQuery (text : String) : Except QueryError Query :=
  (Query.parse text).mapError QueryError.query

def answer (source : Source) (text : String) : Except QueryError ResultTable := do
  let q ← parseQuery text
  let rows ← q.run source
  pure { columns := q.labels, rows }

end TableQuery
