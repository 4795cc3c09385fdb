import TableQuery.Proofs.Row.Filling
import TableQuery.Table

/-!
# Rows given by position

Texts given by position go into the columns of their places, as far as there are columns and
texts.  A column that is named more than once holds the text at its last place.
-/

namespace TableQuery
namespace Table

variable {columns texts : List String}

/-- The entries that texts given by position make. -/
def placed (columns texts : List String) : List (String × Cell) :=
  (columns.zip texts).map fun pair => (pair.1, .text pair.2)

theorem placed_cons (column text : String) (columns texts : List String) :
    placed (column :: columns) (text :: texts) = (column, .text text) :: placed columns texts :=
  rfl

theorem map_fst_placed (columns texts : List String) :
    (placed columns texts).map Prod.fst = columns.take texts.length := by
  induction columns generalizing texts with
  | nil =>
      simp [placed]
  | cons column columns ih =>
      cases texts with
      | nil =>
          rfl
      | cons text texts =>
          rw [placed_cons, List.map_cons, ih, List.length_cons, List.take_succ_cons]

theorem keys_rowOfTexts (columns texts : List String) :
    (rowOfTexts columns texts).keys = (columns.take texts.length).eraseDups := by
  rw [← map_fst_placed]
  exact Row.keys_ofList (placed columns texts)

/-- Distinct columns make entries of their own. -/
theorem entries_rowOfTexts (h : columns.Nodup) :
    (rowOfTexts columns texts).entries = placed columns texts := by
  have hnames : (Row.empty.keys ++ (placed columns texts).map Prod.fst).Nodup := by
    rw [map_fst_placed]
    exact h.sublist (List.take_sublist _ _)
  exact Row.entries_insertAll hnames

theorem get?_insertAll_placed {row : Row} {i : Nat} {column text : String}
    (hcolumn : columns[i]? = some column) (htext : texts[i]? = some text)
    (hlast : column ∉ (columns.take texts.length).drop (i + 1)) :
    (row.insertAll (placed columns texts)).get? column = some (.text text) := by
  induction columns generalizing row texts i with
  | nil =>
      cases hcolumn
  | cons first columns ih =>
      cases texts with
      | nil =>
          cases htext
      | cons given texts =>
          rw [placed_cons, Row.insertAll_cons]
          cases i with
          | zero =>
              cases hcolumn
              cases htext
              have hrest : column ∉ (placed columns texts).map Prod.fst := by
                rw [map_fst_placed]
                exact hlast
              rw [Row.get?_insertAll_of_notMem hrest, Row.get?_insert_self]
          | succ i =>
              exact ih hcolumn htext hlast

theorem exists_text_of_mem_placed {entry : String × Cell} (h : entry ∈ placed columns texts) :
    ∃ text, entry.2 = .text text := by
  rcases List.mem_map.mp h with ⟨pair, _, rfl⟩
  exact ⟨pair.2, rfl⟩

/-!
## Filled rows
-/

/-- The row has each of the columns, once, and the text at the last place of the column. -/
structure IsFilled (columns texts : List String) (row : Row) : Prop where
  keys : row.keys = columns.eraseDups
  cells : ∀ (i : Nat) (column text : String), columns[i]? = some column →
    texts[i]? = some text → column ∉ columns.drop (i + 1) →
      row.get? column = some (.text text)

theorem isFilled_rowOfTexts (h : texts.length = columns.length) :
    IsFilled columns texts (rowOfTexts columns texts) where
  keys := by
    rw [keys_rowOfTexts, List.take_of_length_le (Nat.le_of_eq h.symm)]
  cells := by
    intro i column text hcolumn htext hlast
    refine get?_insertAll_placed hcolumn htext ?_
    rwa [List.take_of_length_le (Nat.le_of_eq h.symm)]

end Table
end TableQuery
