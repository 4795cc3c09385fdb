import TableQuery.Text.Blank
import TableQuery.Text.Quoted
import TableQuery.Decimal.Literal
import TableQuery.Decimal.Style

/-!
# Cells

A cell of a table is empty, a number or a text.  Tables are read as texts; a
number appears where a text is compared, or as the outcome of an aggregate.
-/

namespace TableQuery

inductive Cell where
  | null
  | number (x : Float)
  | text (s : String)
  deriving Inhabited, Repr, BEq

namespace Cell

def isNull : Cell → Bool
  | null => true
  | _ => false

/-!
## Order

Cells of one kind are ordered, numbers by value and texts by code points.  Cells
of different kinds are not, and an undefined number is ordered with nothing.
-/

def compareNumbers? (x y : Float) : Option Ordering :=
  if x < y then some .lt
  else if x == y then some .eq
  else if y < x then some .gt
  else none

def compare? : Cell → Cell → Option Ordering
  | null, null => some .eq
  | number x, number y => compareNumbers? x y
  | text s, text t => some (compareOfLessAndEq s t)
  | _, _ => none

/-!
## Numeric readings
-/

/-- The number that an aggregate takes from a cell: the blanks around a text do
not count, and only finite numbers are taken. -/
def reading? : Cell → Option Float
  | null => none
  | number x => if Decimal.isFinite x then some x else none
  | text s => Decimal.readFinite? (Text.trim s.toList)

/-- What a text is compared as: without quotes around it, and as a number if it
is written as a finite one. -/
def ofLiteral (literal : String) : Cell :=
  let inside := Text.stripQuotes literal.toList
  match Decimal.readFinite? (Text.trim inside) with
  | some x => number x
  | none => text (String.ofList inside)

def coerce : Cell → Cell
  | null => null
  | number x => number x
  | text s => ofLiteral s

/-- What the cell at some key is compared as, an absent one as null. -/
def coerce? : Option Cell → Cell
  | none => null
  | some cell => cell.coerce

@[simp]
theorem coerce?_some (cell : Cell) : coerce? (some cell) = cell.coerce :=
  rfl

/-!
## Text of a cell
-/

/-- Numbers are written in full, never with a power of ten, and of two equally
near shortest decimals the one further from zero is taken. -/
def displayStyle : Decimal.Style :=
  { tie := .away, positional := none, marksIntegers := false }

/-- Every integer below this bound is a number, and is written as an integer. -/
def integerBound : Nat :=
  9000000000000000

/-- The number as an integer that is written as such. -/
def writtenInteger? (x : Float) : Option Int :=
  match Decimal.kind x with
  | .finite parts => parts.integer?.filter fun n => n.natAbs < integerBound
  | _ => none

def displayNumber (x : Float) : List Char :=
  match writtenInteger? x with
  | some n => Decimal.writeInteger n
  | none =>
      match Decimal.kind x with
      | .finite parts => displayStyle.write parts
      | .infinite false => "inf".toList
      | .infinite true => "-inf".toList
      | .notANumber => "NaN".toList

def display : Cell → String
  | null => ""
  | number x => String.ofList (displayNumber x)
  | text s => s

end Cell
end TableQuery
