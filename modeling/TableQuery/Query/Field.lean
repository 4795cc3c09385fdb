import TableQuery.Text.Blank
import TableQuery.Text.Cut
import TableQuery.Text.Letters

/-!
# Requested fields

A field of a query is a column or an aggregate of one.  Its label is the name
under which every row of the outcome carries it.
-/

namespace TableQuery

inductive Aggregate where
  | count
  | sum
  | avg
  | min
  | max
  deriving Repr, DecidableEq

namespace Aggregate

def name : Aggregate → String
  | count => "COUNT"
  | sum => "SUM"
  | avg => "AVG"
  | min => "MIN"
  | max => "MAX"

def ofUpperName? (name : String) : Option Aggregate :=
  match name with
  | "COUNT" => some count
  | "SUM" => some sum
  | "AVG" => some avg
  | "MIN" => some min
  | "MAX" => some max
  | _ => none

/-- The aggregate of a name, whatever the case of its letters. -/
def ofName? (name : List Char) : Option Aggregate :=
  ofUpperName? (String.ofList (Text.upper name))

@[simp]
theorem ofUpperName?_name (f : Aggregate) : ofUpperName? f.name = some f := by
  cases f <;> rfl

theorem eq_name_of_ofUpperName? {name : String} {f : Aggregate}
    (h : ofUpperName? name = some f) : name = f.name := by
  unfold ofUpperName? at h
  split at h <;> cases h <;> rfl

end Aggregate

/-- What an aggregate is taken of: whole rows, or one column. -/
inductive Argument where
  | star
  | column (name : String)
  deriving Repr, DecidableEq

inductive Field where
  | column (name : String)
  | aggregate (f : Aggregate) (argument : Argument)
  deriving Repr, DecidableEq

namespace Field

/-- The argument between the parentheses of a call, without blanks around it. -/
def argument? (cs : List Char) : Option Argument :=
  match Text.trim cs with
  | [] => none
  | ['*'] => some .star
  | name => some (.column (String.ofList name))

/-- The call of an aggregate: a name, and an argument from the first opening
parenthesis to a closing one at the very end. -/
def call? (cs : List Char) : Option Field := do
  let (name, rest) ← Text.cut? '(' cs
  let inside ← Text.stripEnd? [')'] rest
  let f ← Aggregate.ofName? (Text.trim name)
  let argument ← argument? inside
  pure (.aggregate f argument)

/-- The field that a text asks for.  A text that calls no aggregate is the name
of a column. -/
def ofText (text : String) : Field :=
  let cs := Text.trim text.toList
  (call? cs).getD (.column (String.ofList cs))

def isAggregate : Field → Bool
  | column _ => false
  | aggregate _ _ => true

/-- The name under which rows of the outcome carry the field. -/
def label : Field → String
  | column name => name
  | aggregate f .star => f.name ++ "(*)"
  | aggregate f (.column name) => f.name ++ "(" ++ name ++ ")"

def source? : Field → Option String
  | column name => some name
  | aggregate _ .star => none
  | aggregate _ (.column name) => some name

end Field
end TableQuery
