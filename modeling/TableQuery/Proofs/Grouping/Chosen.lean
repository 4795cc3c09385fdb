import TableQuery.Proofs.Filter.Operators
import TableQuery.Proofs.Grouping.Tallies

/-!
# Numbers in comparisons and in aggregates

A comparison drops quotes around a text before it looks for a number, an aggregate does not.
So a cell is the same number to both, or it stands in quotes and is none to aggregates.  A row
that was chosen because its cell compares as a number counts for the aggregates of that column
exactly if the cell stands in no quotes.
-/

namespace TableQuery

/-!
## Cells
-/

namespace Cell

/-- A text within quotes. -/
def IsQuoted : Cell → Prop
  | text s => Text.IsEnclosed s.toList
  | null => False
  | number _ => False

instance : DecidablePred IsQuoted
  | null => isFalse id
  | number _ => isFalse id
  | text s => inferInstanceAs (Decidable (Text.IsEnclosed s.toList))

theorem reading?_text_iff_coerce {s : String} {x : Float} :
    (text s).reading? = some x ↔ (text s).coerce = number x ∧ ¬Text.IsEnclosed s.toList := by
  rw [reading?_text_eq_some_iff, coerce, ofLiteral_eq_number_iff]
  constructor
  · intro h
    have henclosed : ¬Text.IsEnclosed s.toList := by
      intro henclosed
      rcases henclosed with ⟨q, inside, hs⟩
      rw [hs] at h
      exact Decimal.not_isNumeral_enclose q inside h
    rw [Text.stripQuotes_of_not_isEnclosed henclosed]
    exact ⟨h, henclosed⟩
  · intro h
    rw [Text.stripQuotes_of_not_isEnclosed h.2] at h
    exact h.1

/-- The number that a cell is compared as, if it is compared as one. -/
def compared? (cell : Cell) : Option Float :=
  match cell.coerce with
  | number x => some x
  | _ => none

theorem compared?_eq_some_iff {cell : Cell} {x : Float} :
    cell.compared? = some x ↔ cell.coerce = number x := by
  rw [compared?]
  cases cell.coerce <;> simp

/-- A cell is the same number to comparisons and to aggregates, but for quotes, and for numbers
that are not finite. -/
theorem reading?_eq_compared? (cell : Cell) :
    cell.reading? = if cell.IsQuoted then none else cell.compared?.filter Decimal.isFinite := by
  cases cell with
  | null =>
      rfl
  | number x =>
      rw [if_neg (show ¬(number x).IsQuoted from id), reading?, compared?, coerce,
        Option.filter_some]
  | text s =>
      split
      · rename_i hquoted
        rw [Option.eq_none_iff_forall_ne_some]
        intro x hx
        exact (reading?_text_iff_coerce.mp hx).2 hquoted
      · rename_i hplain
        ext x
        rw [reading?_text_iff_coerce, Option.filter_eq_some_iff, compared?_eq_some_iff]
        refine and_congr_right ?_
        intro hcoerce
        have hfinite := isFinite_ofLiteral s
        rw [show ofLiteral s = number x from hcoerce] at hfinite
        exact iff_of_true hplain hfinite

end Cell

/-!
## Rows
-/

namespace Grouping

section Chosen

variable {column : String}

/-- A row that meets a condition with a number has a number in its own cell, but where it is
asked to be different. -/
theorem exists_coerce_of_holds {op : Comparison} {literal : String} {m : Float}
    (hliteral : Cell.ofLiteral literal = .number m) (hop : op ≠ .notEqual) {row : Row}
    (hholds : Condition.holds ⟨column, op, literal⟩ row = true) :
    ∃ cell x, row.get? column = some cell ∧ cell.coerce = .number x := by
  have hsame := Cell.sameKind_of_isSome (Cell.ofLiteral_ne_null literal)
    (Comparison.isSome_of_holds hop hholds)
  rw [hliteral] at hsame
  cases hcell : row.get? column with
  | none =>
      rw [hcell] at hsame
      cases hsame
  | some cell =>
      rw [hcell, Cell.coerce?_some] at hsame
      generalize hcoerce : cell.coerce = coerced at hsame
      cases hsame with
      | numbers x _ =>
          exact ⟨cell, x, rfl, hcoerce⟩

/-- One row more adds the number that its cell is compared as, unless the cell is quoted. -/
theorem take_of_coerce {row : Row} {field : Field} (hsource : field.source? = some column)
    {cell : Cell} (hcell : row.get? column = some cell) {x : Float}
    (hcoerce : cell.coerce = .number x) (t : Tally) :
    t.take row field = if cell.IsQuoted ∨ Decimal.isFinite x = false then t else t.add x := by
  rw [Tally.take, hsource, Option.bind_some, hcell, Option.bind_some, Cell.reading?_eq_compared?,
    Cell.compared?_eq_some_iff.mpr hcoerce, Option.filter_some]
  by_cases hquoted : cell.IsQuoted
  · rw [if_pos hquoted, if_pos (Or.inl hquoted)]
  · cases hfinite : Decimal.isFinite x <;> simp [hquoted]

/-- The numbers that the cells of a column are compared as, those in quotes left out. -/
def plainNumbers (column : String) (rows : List Row) : List Float :=
  ((cellsOf column rows).filter fun cell => ¬cell.IsQuoted).filterMap fun cell =>
    cell.compared?.filter Decimal.isFinite

theorem readings_eq_plainNumbers (column : String) (rows : List Row) :
    readings column rows = plainNumbers column rows := by
  rw [readings, plainNumbers, List.filterMap_filter]
  congr
  funext cell
  rw [Cell.reading?_eq_compared?]
  by_cases hquoted : cell.IsQuoted <;> simp [hquoted]

end Chosen

end Grouping
end TableQuery
