import TableQuery.Error
import TableQuery.Execution

/-!
# Tables in memory

A store holds tables under keys.  A table is created empty under a name and grows by
rows, or is put as a whole under the name that it has itself.
-/

namespace TableQuery

structure Store where
  tables : List (String × Table)
  deriving Inhabited

inductive Change where
  | create (table : String) (columns : List String)
  | insert (table : String) (texts : List String)
  | put (table : Table)

namespace Store

def empty : Store :=
  { tables := [] }

def find? (s : Store) (key : String) : Option Table :=
  s.tables.lookup key

/-- Sets the table under a key, in place of the one that is there. -/
def set (s : Store) (key : String) (table : Table) : Store :=
  { tables := (key, table) :: s.tables.filter fun entry => entry.1 != key }

/-- Puts a table under its own name. -/
def put (s : Store) (table : Table) : Store :=
  s.set table.name table

/-- Adds an empty table under a name that is new. -/
def create (s : Store) (name : String) (columns : List String) : Except QueryError Store :=
  match s.find? name with
  | some _ => .error (.schema (.tableExists name))
  | none => .ok (s.set name { name, columns, rows := [] })

/-- Adds a row of one text for each column. -/
def insert (s : Store) (name : String) (texts : List String) : Except QueryError Store :=
  match s.find? name with
  | none => .error (.noTable name)
  | some table =>
      if texts.length = table.columns.length then
        let row := Table.rowOfTexts table.columns texts
        .ok (s.set name { table with rows := table.rows ++ [row] })
      else
        .error (.schema (.arity table.columns.length texts.length))

def load (s : Store) : Source := fun name =>
  match s.find? name with
  | some table => .ok table
  | none => .error (.noTable name)

def change (s : Store) : Change → Except QueryError Store
  | .create name columns => s.create name columns
  | .insert name texts => s.insert name texts
  | .put table => .ok (s.put table)

/-- A change that does not fit leaves the store as it is. -/
def apply (s : Store) (c : Change) : Store :=
  match s.change c with
  | .ok changed => changed
  | .error _ => s

def applyAll (s : Store) (changes : List Change) : Store :=
  changes.foldl apply s

end Store
end TableQuery
