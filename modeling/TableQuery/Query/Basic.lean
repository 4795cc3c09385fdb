import TableQuery.Query.Comparison
import TableQuery.Query.Field
import TableQuery.Name

/-!
# Queries

A query asks for fields of one table, or of two joined tables.  Conditions
choose rows, and a list of names groups them.
-/

namespace TableQuery

/-- A field compared with a literal, which keeps the quotes it was written with. -/
structure Condition where
  field : String
  op : Comparison
  literal : String
  deriving Repr, DecidableEq

inductive JoinKind where
  | inner
  | left
  | right
  deriving Repr, DecidableEq

namespace JoinKind

def name : JoinKind → String
  | inner => "INNER"
  | left => "LEFT"
  | right => "RIGHT"

def ofUpperName? (name : String) : Option JoinKind :=
  match name with
  | "INNER" => some inner
  | "LEFT" => some left
  | "RIGHT" => some right
  | _ => none

/-- The kind of a name, whatever the case of its letters. -/
def ofName? (name : String) : Option JoinKind :=
  ofUpperName? (String.ofList (Text.upper name.toList))

@[simp]
theorem ofUpperName?_name (k : JoinKind) : ofUpperName? k.name = some k := by
  cases k <;> rfl

theorem eq_name_of_ofUpperName? {name : String} {k : JoinKind}
    (h : ofUpperName? name = some k) : name = k.name := by
  unfold ofUpperName? at h
  split at h <;> cases h <;> rfl

end JoinKind

/-- Two names whose cells must be equal for rows to be joined. -/
structure Link where
  left : String
  right : String
  deriving Repr, DecidableEq

namespace Link

/-- The link with its left side on the main table: exactly a link that is written
the other way round, with both sides qualified, is turned. -/
def oriented (link : Link) (main joined : String) : Link :=
  if Name.owner? link.left = some joined ∧ Name.owner? link.right = some main then
    { left := link.right, right := link.left }
  else
    link

end Link

structure Join where
  kind : JoinKind
  table : String
  link : Link
  deriving Repr, DecidableEq

structure Query where
  fields : List Field
  table : String
  conditions : List Condition
  join : Option Join
  groupBy : Option (List String)
  deriving Repr, DecidableEq

namespace Query

def labels (q : Query) : List String :=
  q.fields.map Field.label

/-- Whether all rows are taken together: an aggregate is asked for, and no groups. -/
def isSummary (q : Query) : Bool :=
  q.groupBy.isNone && q.fields.any Field.isAggregate

/-- The tables that the query reads, in the order in which they are loaded. -/
def tables (q : Query) : List String :=
  q.table :: (q.join.map Join.table).toList

end Query
end TableQuery
