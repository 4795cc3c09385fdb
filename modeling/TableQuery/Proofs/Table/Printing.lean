import TableQuery.Proofs.Cell.Characters
import TableQuery.Proofs.Text.Pieces
import TableQuery.Table

/-!
# Printed tables

A printed table has a line for its labels and one for each row, with tabs between the cells of a
line.  Nothing in a label or in a text is escaped: a line break in one of them begins another
line, and a tab another cell.  If there are none, the lines and the cells are read back.
-/

namespace TableQuery

/-!
## Lines of cells
-/

namespace Text

/-- Lines of cells as one text, with one separator between the lines and another one between the
cells of a line. -/
def layOut (outer inner : Char) (grid : List (List (List Char))) : List Char :=
  [outer].intercalate (grid.map fun line => [inner].intercalate line)

variable {outer inner : Char} {grid : List (List (List Char))}

theorem length_pieces_layOut_iff (hne : outer ≠ inner) (hgrid : grid ≠ []) :
    (pieces outer (layOut outer inner grid)).length = grid.length ↔
      ∀ line ∈ grid, ∀ cell ∈ line, outer ∉ cell := by
  have hlines : grid.map (fun line => [inner].intercalate line) ≠ [] := by
    simpa using hgrid
  have hlength : (grid.map fun line => [inner].intercalate line).length = grid.length :=
    List.length_map _
  rw [layOut, pieces_intercalate hlines, ← hlength, length_flatMap_pieces_iff,
    List.forall_mem_map]
  simp only [mem_intercalate_iff hne]
  simp

theorem map_pieces_layOut (hne : outer ≠ inner) (hgrid : grid ≠ [])
    (hlines : ∀ line ∈ grid, line ≠ [])
    (houter : ∀ line ∈ grid, ∀ cell ∈ line, outer ∉ cell)
    (hinner : ∀ line ∈ grid, ∀ cell ∈ line, inner ∉ cell) :
    (pieces outer (layOut outer inner grid)).map (pieces inner) = grid := by
  have hline : ∀ line ∈ grid, pieces inner ([inner].intercalate line) = line := by
    intro line hmem
    rw [pieces_intercalate (hlines line hmem), flatMap_pieces_of_notMem (hinner line hmem)]
  have hjoined : ∀ text ∈ grid.map (fun line => [inner].intercalate line), outer ∉ text := by
    rw [List.forall_mem_map]
    intro line hmem
    rw [mem_intercalate_iff hne]
    intro hin
    rcases hin with ⟨cell, hcell, hin⟩
    exact houter line hmem cell hcell hin
  rw [layOut, pieces_intercalate (by simpa using hgrid), flatMap_pieces_of_notMem hjoined,
    List.map_map]
  exact (List.map_congr_left hline).trans (List.map_id grid)

end Text

namespace ResultTable

/-!
## The text of a table
-/

/-- The labels, and below them for each row the cells of its columns. -/
def grid (r : ResultTable) : List (List (List Char)) :=
  r.columns.map String.toList ::
    r.rows.map fun row => r.columns.map fun column => (cellText (row.get? column)).toList

theorem toList_text (r : ResultTable) : r.text.toList = Text.layOut '\n' '\t' r.grid := by
  have hrow : ∀ row, (rowText r.columns row).toList =
      ['\t'].intercalate (r.columns.map fun column => (cellText (row.get? column)).toList) := by
    intro row
    rw [rowText, String.toList_intercalate, List.map_map]
    rfl
  rw [text, String.toList_intercalate, List.map_cons, String.toList_intercalate, List.map_map,
    Text.layOut, grid, List.map_cons, List.map_map]
  simp only [Function.comp_def, hrow]
  rfl

/-- The blanks that are shown of a cell are those of its text. -/
theorem notMem_cellText_iff {c : Char} (hc : Text.isBlank c = true) (cell : Option Cell) :
    c ∉ (cellText cell).toList ↔ ∀ s, cell = some (.text s) → c ∉ s.toList := by
  have hnull : c ∉ "NULL".toList :=
    Text.IsSolid.notMem (by decide) hc
  cases cell with
  | none =>
      exact iff_of_true hnull (by simp)
  | some cell =>
      cases cell with
      | null =>
          exact iff_of_true hnull (by simp)
      | number x =>
          have hshown : (cellText (some (.number x))).toList = Cell.displayNumber x :=
            String.toList_ofList
          rw [hshown]
          exact iff_of_true ((Cell.isSolid_displayNumber x).notMem hc) (by simp)
      | text s =>
          simp [cellText, Cell.display]

/-!
## The printed table
-/

/-- The lines of the printed table. -/
def lines (r : ResultTable) : List (List Char) :=
  Text.pieces '\n' r.text.toList

/-- What stands at a place of a line, counted by line breaks and by tabs. -/
def cellAt? (r : ResultTable) (i j : Nat) : Option (List Char) :=
  (r.lines[i]?.map (Text.pieces '\t')).bind fun cells => cells[j]?

/-- The printed table has a line for the labels and one for each row, and in each line a cell for
each column: its label, or what is shown of its cell in the row. -/
structure IsTabular (r : ResultTable) : Prop where
  lines : r.lines.length = r.rows.length + 1
  cells : ∀ line ∈ r.lines, (Text.pieces '\t' line).length = r.columns.length
  labels : ∀ (j : Nat) (label : String), r.columns[j]? = some label →
    r.cellAt? 0 j = some label.toList
  shown : ∀ (i j : Nat) (row : Row) (column : String), r.rows[i]? = some row →
    r.columns[j]? = some column →
      r.cellAt? (i + 1) j = some (cellText (row.get? column)).toList

/-- The character stands in no label, and in no text under one. -/
structure Lacks (r : ResultTable) (c : Char) : Prop where
  labels : ∀ label ∈ r.columns, c ∉ label.toList
  texts : ∀ row ∈ r.rows, ∀ column ∈ r.columns, ∀ s, row.get? column = some (.text s) →
    c ∉ s.toList

variable {r : ResultTable} {c : Char}

theorem lacks_iff_grid (hc : Text.isBlank c = true) :
    r.Lacks c ↔ ∀ line ∈ r.grid, ∀ cell ∈ line, c ∉ cell := by
  rw [grid, List.forall_mem_cons]
  simp only [List.forall_mem_map, notMem_cellText_iff hc]
  constructor
  · intro h
    exact ⟨h.labels, h.texts⟩
  · intro h
    exact ⟨h.1, h.2⟩

theorem length_lines_eq_iff : r.lines.length = r.rows.length + 1 ↔ r.Lacks '\n' := by
  have hlength : r.grid.length = r.rows.length + 1 := by
    simp [grid]
  rw [lacks_iff_grid (by decide), ← hlength, lines, toList_text]
  exact Text.length_pieces_layOut_iff (by decide) (List.cons_ne_nil _ _)

theorem notMem_of_cellAt? {i j : Nat} {cell : List Char} (h : r.cellAt? i j = some cell) :
    '\n' ∉ cell ∧ '\t' ∉ cell := by
  rcases Option.bind_eq_some_iff.mp h with ⟨cells, hcells, hcell⟩
  rcases Option.map_eq_some_iff.mp hcells with ⟨line, hline, rfl⟩
  have hmem := List.mem_of_getElem? hcell
  constructor
  · intro hbreak
    exact Text.notMem_of_mem_pieces (List.mem_of_getElem? hline) (Text.mem_of_mem_pieces hmem hbreak)
  · exact Text.notMem_of_mem_pieces hmem

theorem IsTabular.lacks (h : r.IsTabular) (hc : c = '\n' ∨ c = '\t') : r.Lacks c := by
  have hplace : ∀ {i j : Nat} {cell : List Char}, r.cellAt? i j = some cell → c ∉ cell := by
    intro i j cell hcell
    rcases hc with rfl | rfl
    · exact (notMem_of_cellAt? hcell).1
    · exact (notMem_of_cellAt? hcell).2
  constructor
  · intro label hlabel
    rcases List.getElem?_of_mem hlabel with ⟨j, hj⟩
    exact hplace (h.labels j label hj)
  · intro row hrow column hcolumn s hs
    rcases List.getElem?_of_mem hrow with ⟨i, hi⟩
    rcases List.getElem?_of_mem hcolumn with ⟨j, hj⟩
    have hcell := hplace (h.shown i j row column hi hj)
    rw [hs] at hcell
    exact hcell

theorem cellAt?_of_map_lines (h : r.lines.map (Text.pieces '\t') = r.grid) (i j : Nat) :
    r.cellAt? i j = r.grid[i]?.bind fun cells => cells[j]? := by
  rw [cellAt?, ← List.getElem?_map, h]

theorem isTabular_of_map_lines (h : r.lines.map (Text.pieces '\t') = r.grid) : r.IsTabular where
  lines := by
    rw [← List.length_map (Text.pieces '\t'), h, grid, List.length_cons, List.length_map]
  cells := by
    intro line hline
    have hmem : Text.pieces '\t' line ∈ r.grid := h ▸ List.mem_map_of_mem hline
    rw [grid, List.mem_cons, List.mem_map] at hmem
    rcases hmem with heq | ⟨row, _, heq⟩
    · rw [heq, List.length_map]
    · rw [← heq, List.length_map]
  labels := by
    intro j label hj
    simp [cellAt?_of_map_lines h, grid, hj]
  shown := by
    intro i j row column hi hj
    simp [cellAt?_of_map_lines h, grid, hi, hj]

theorem isTabular_iff (hcolumns : r.columns ≠ []) :
    r.IsTabular ↔ r.Lacks '\n' ∧ r.Lacks '\t' := by
  constructor
  · intro h
    exact ⟨h.lacks (.inl rfl), h.lacks (.inr rfl)⟩
  · intro h
    rcases h with ⟨hbreak, htab⟩
    have hlines : ∀ line ∈ r.grid, line ≠ [] := by
      simp [grid, hcolumns]
    apply isTabular_of_map_lines
    rw [lines, toList_text]
    exact Text.map_pieces_layOut (by decide) (List.cons_ne_nil _ _) hlines
      ((lacks_iff_grid (by decide)).mp hbreak) ((lacks_iff_grid (by decide)).mp htab)

end ResultTable
end TableQuery
