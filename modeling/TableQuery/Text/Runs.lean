import TableQuery.Text.Cut
import TableQuery.Text.Hexadecimal

/-!
# Tables of characters

A property of characters is a table of runs, and a run is written as a word.  The
word `41-5A` stands for the code points from the first to the last, `100/12E` for
every second one of them, and `41` for a single one.  Numbers given to the run stand
behind a colon, with commas between them.
-/

namespace TableQuery
namespace Text

/-- Code points at equal distances, and the numbers given to them. -/
structure Run where
  first : Nat
  last : Nat
  step : Nat
  values : List Nat
  deriving Repr, DecidableEq

namespace Run

def ofWord (word : List Char) : Run :=
  let (codes, values) := (cut? ':' word).getD (word, [])
  let values := if values.isEmpty then [] else (pieces ',' values).map hexValue
  match cut? '-' codes with
  | some (first, last) => { first := hexValue first, last := hexValue last, step := 1, values }
  | none =>
      match cut? '/' codes with
      | some (first, last) =>
          { first := hexValue first, last := hexValue last, step := 2, values }
      | none => { first := hexValue codes, last := hexValue codes, step := 1, values }

def contains (run : Run) (n : Nat) : Bool :=
  run.first ≤ n && n ≤ run.last && (n - run.first) % run.step == 0

/-- The numbers given to a code point of the run: they grow with it. -/
def image (run : Run) (n : Nat) : List Nat :=
  run.values.map fun value => value + (n - run.first)

end Run

def runs (lines : List String) : List Run :=
  lines.flatMap fun line => (pieces ' ' line.toList).map Run.ofWord

/-- The first run that a code point belongs to. -/
def runOf? (table : List Run) (n : Nat) : Option Run :=
  table.find? fun run => run.contains n

def inRuns (table : List Run) (n : Nat) : Bool :=
  (runOf? table n).isSome

end Text
end TableQuery
