import TableQuery.Query.Basic
import TableQuery.Table

/-!
# Groups and aggregates

Rows are grouped by a key.  A group takes its rows one by one and keeps a tally
for every numeric aggregate that is asked for; in the end it gives one row.
-/

namespace TableQuery
namespace Grouping

/-!
## Keys
-/

/-- The texts of the cells at the given names, an absent one as empty. -/
def keyTexts (names : List String) (row : Row) : List String :=
  names.map fun name => (row.getD name).display

/-- The key that a row is grouped under: the texts at the names to group by, or the
same for all rows. -/
def key (groupBy : Option (List String)) (isSummary : Bool) (row : Row) : String :=
  match groupBy with
  | some names => String.intercalate "|" (keyTexts names row)
  | none => if isSummary then "AGGREGATE" else ""

/-!
## Tallies
-/

def lesser (x y : Float) : Float :=
  if y < x then y else x

def greater (x y : Float) : Float :=
  if x < y then y else x

/-- What a numeric aggregate has taken in so far: the sum from left to right, the
bounds, and whether there was any number. -/
structure Tally where
  sum : Float
  least : Option Float
  greatest : Option Float
  seen : Bool

namespace Tally

def empty : Tally :=
  { sum := 0.0, least := none, greatest := none, seen := false }

def add (t : Tally) (x : Float) : Tally :=
  { sum := t.sum + x
    least := some (t.least.elim x fun bound => lesser bound x)
    greatest := some (t.greatest.elim x fun bound => greater bound x)
    seen := true }

/-- A tally for a field that sums or compares the numbers of a column, and none for
any other. -/
def start? : Field → Option Tally
  | .aggregate .count _ => none
  | .aggregate _ (.column _) => some empty
  | _ => none

/-- Takes in the number that a row holds for the field, if it holds one. -/
def take (row : Row) (field : Field) (t : Tally) : Tally :=
  match (field.source?.bind row.get?).bind Cell.reading? with
  | none => t
  | some x => t.add x

end Tally

/-!
## Groups
-/

/-- The number of rows in which a column is not null. -/
def presentCount (column : String) (rows : List Row) : Nat :=
  rows.countP fun row => !(row.getD column).isNull

def cellOf : Option Float → Cell
  | none => .null
  | some x => .number x

/-- The rows of a group as far as they have come, with one place for a tally for
each requested field. -/
structure Accumulator where
  count : Nat
  rows : List Row
  tallies : List (Option Tally)

namespace Accumulator

def start (fields : List Field) : Accumulator :=
  { count := 0, rows := [], tallies := fields.map Tally.start? }

/-- Takes in a row.  A row without a number for some field still counts. -/
def push (fields : List Field) (a : Accumulator) (row : Row) : Accumulator :=
  { count := a.count + 1
    rows := a.rows ++ [row]
    tallies := List.zipWith (fun field tally => tally.map (Tally.take row field)) fields
      a.tallies }

def gather (fields : List Field) (rows : List Row) : Accumulator :=
  rows.foldl (push fields) (start fields)

/-- The cell of a field whose tally is given: a column is that of the first row, and
an average is divided by the count of all cells that are not null, also of those
that are no numbers. -/
def value (a : Accumulator) (tally : Tally) : Field → Cell
  | .column name => (a.rows.head?.bind fun row => row.get? name).getD .null
  | .aggregate .count .star => .number (Float.ofNat a.count)
  | .aggregate .count (.column c) => .number (Float.ofNat (presentCount c a.rows))
  | .aggregate .sum _ => .number tally.sum
  | .aggregate .avg .star => .number 0.0
  | .aggregate .avg (.column c) =>
      if tally.seen then .number (tally.sum / Float.ofNat (presentCount c a.rows))
      else .number 0.0
  | .aggregate .min _ => cellOf tally.least
  | .aggregate .max _ => cellOf tally.greatest

def finish (fields : List Field) (a : Accumulator) : Row :=
  Row.ofList (fields.mapIdx fun i field =>
    (field.label, a.value ((a.tallies[i]?.join).getD .empty) field))

end Accumulator

/-- The row that a group of rows gives, also an empty one. -/
def summary (rows : List Row) (fields : List Field) : Row :=
  (Accumulator.gather fields rows).finish fields

/-!
## Partitions
-/

/-- The groups in the order in which their keys first occurred, and under each key
the place of its group. -/
structure Partition where
  places : List (String × Nat)
  groups : Array Accumulator

namespace Partition

def empty : Partition :=
  { places := [], groups := #[] }

/-- The partition with a group for the key, opened behind the others if there is
none, and the place of that group. -/
def locate (fields : List Field) (key : String) (p : Partition) : Partition × Nat :=
  match p.places.lookup key with
  | some place => (p, place)
  | none =>
      ({ places := (key, p.groups.size) :: p.places
         groups := p.groups.push (Accumulator.start fields) }, p.groups.size)

def add (fields : List Field) (key : Row → String) (p : Partition) (row : Row) : Partition :=
  let (found, place) := p.locate fields (key row)
  { found with groups := found.groups.modify place fun group => group.push fields row }

def ofRows (fields : List Field) (key : Row → String) (rows : List Row) : Partition :=
  rows.foldl (add fields key) empty

end Partition

def groupRows (groupBy : Option (List String)) (isSummary : Bool) (fields : List Field)
    (rows : List Row) : List Row :=
  ((Partition.ofRows fields (key groupBy isSummary) rows).groups.map
    (Accumulator.finish fields)).toList

end Grouping
end TableQuery
