import TableQuery.Csv.Writer
import TableQuery.Proofs.Csv.Decoding
import TableQuery.Proofs.Row.Placing
import TableQuery.Proofs.Text.Trimming

/-!
# Written tables

What is written with every field in quotes is read back: the header names the columns, and
each record is a row with its texts, whatever characters they hold.
-/

namespace TableQuery

namespace Csv

theorem columnName_of_isTrimmed {column : String} (h : Text.IsTrimmed column.toList) :
    columnName column = column := by
  rw [columnName, h.trim_eq, String.ofList_toList]

/-!
## Records
-/

variable {bytes field rest : List UInt8}

theorem takeRecord_of_comma (h : takeField bytes = (field, comma :: rest)) :
    takeRecord bytes = (field :: (takeRecord rest).1, (takeRecord rest).2) := by
  rw [takeRecord]
  split
  · rename_i heq
    rw [h] at heq
    cases heq
  · rename_i heq
    rw [h] at heq
    cases heq
    rw [if_pos rfl]

theorem takeRecord_of_break {b : UInt8} (h : takeField bytes = (field, b :: rest))
    (hb : b ≠ comma) : takeRecord bytes = ([field], rest) := by
  rw [takeRecord]
  split
  · rename_i heq
    rw [h] at heq
    cases heq
  · rename_i heq
    rw [h] at heq
    cases heq
    rw [if_neg hb]

theorem takeRecord_writeRecord {fields : List String} (h : fields ≠ []) (rest : List UInt8) :
    takeRecord (writeRecord fields ++ rest) = (fields.map bytesOf, rest) := by
  induction fields with
  | nil =>
      exact absurd rfl h
  | cons field fields ih =>
      cases fields with
      | nil =>
          rw [writeRecord, writeFields, List.append_assoc]
          exact takeRecord_of_break (takeField_writeField field rfl) (by decide)
      | cons next fields =>
          have hwritten : writeRecord (field :: next :: fields) ++ rest =
              writeField field ++ comma :: (writeRecord (next :: fields) ++ rest) := by
            simp [writeRecord, writeFields]
          rw [hwritten, takeRecord_of_comma (takeField_writeField field rfl),
            ih (List.cons_ne_nil next fields)]
          rfl

theorem records_eq_cons {b : UInt8} (h : bytes.dropWhile isBreak = b :: rest) :
    records bytes =
      { onward := bytes, fields := (takeRecord (b :: rest)).1 } ::
        records (takeRecord (b :: rest)).2 := by
  rw [records]
  split
  · rename_i heq
    rw [h] at heq
    cases heq
  · rename_i heq
    rw [h] at heq
    cases heq
    rfl

theorem exists_writeRecord_eq_cons {fields : List String} (h : fields ≠ []) :
    ∃ rest, writeRecord fields = quote :: rest := by
  rcases List.exists_cons_of_ne_nil h with ⟨field, fields, rfl⟩
  cases fields with
  | nil =>
      exact ⟨_, rfl⟩
  | cons next fields =>
      exact ⟨_, rfl⟩

theorem records_writeRecord_append {fields : List String} (h : fields ≠ [])
    (rest : List UInt8) :
    records (writeRecord fields ++ rest) =
      { onward := writeRecord fields ++ rest, fields := fields.map bytesOf } :: records rest := by
  have hread := takeRecord_writeRecord h rest
  rcases exists_writeRecord_eq_cons h with ⟨more, hmore⟩
  rw [hmore, List.cons_append] at hread ⊢
  have hdrop : (quote :: (more ++ rest)).dropWhile isBreak = quote :: (more ++ rest) := rfl
  rw [records_eq_cons hdrop, hread]

theorem holds_records_writeRecords {lines : List (List String)} (h : ∀ line ∈ lines, line ≠ []) :
    List.Forall₂ Record.Holds lines (records (writeRecords lines)) := by
  induction lines with
  | nil =>
      rw [show writeRecords [] = [] from rfl, records]
      exact .nil
  | cons line lines ih =>
      rw [List.forall_mem_cons] at h
      rw [writeRecords, List.flatMap_cons, records_writeRecord_append h.1]
      exact .cons rfl (ih h.2)

theorem dropMark_writeRecords {line : List String} (h : line ≠ []) (lines : List (List String)) :
    dropMark (writeRecords (line :: lines)) = writeRecords (line :: lines) := by
  rcases exists_writeRecord_eq_cons h with ⟨more, hmore⟩
  rw [writeRecords, List.flatMap_cons, hmore]
  rfl

/-!
## Tables
-/

/-- The row has the first columns, as many as there are texts, and each text in the column
of its place. -/
structure HoldsTexts (columns texts : List String) (row : Row) : Prop where
  keys : row.keys = columns.take texts.length
  cells : ∀ (i : Nat) (column text : String), columns[i]? = some column →
    texts[i]? = some text → row.get? column = some (.text text)

theorem holdsTexts_rowOfTexts {columns : List String} (h : columns.Nodup)
    (texts : List String) : HoldsTexts columns texts (Table.rowOfTexts columns texts) where
  keys := by
    rw [Row.keys, Table.entries_rowOfTexts h, Table.map_fst_placed]
  cells := by
    intro i column text hcolumn htext
    rw [Row.get?_eq_some_iff, Table.entries_rowOfTexts h, Table.placed, List.mem_map]
    have hpair : (columns.zip texts)[i]? = some (column, text) :=
      List.getElem?_zip_eq_some.mpr ⟨hcolumn, htext⟩
    exact ⟨(column, text), List.mem_of_getElem? hpair, rfl⟩

/-- A table that is written with distinct names, which have no blanks around them, is read
back: its columns are those names, and each record gives a row with its texts in the columns
of their places.  Texts that have no column are left out, and so are columns that have no
text. -/
theorem readTable_writeRecords (name : String) {columns : List String} (hsome : columns ≠ [])
    (hdistinct : columns.Nodup) (htrimmed : ∀ column ∈ columns, Text.IsTrimmed column.toList)
    {lines : List (List String)} (hlines : ∀ line ∈ lines, line ≠ []) :
    ∃ rows, readTable name (writeRecords (columns :: lines)) = .ok { name, columns, rows } ∧
      List.Forall₂ (HoldsTexts columns) lines rows := by
  have hnames : columns.map columnName = columns := by
    rw [List.map_congr_left fun column hcolumn =>
      columnName_of_isTrimmed (htrimmed column hcolumn), List.map_id']
  have hread : List.Forall₂ Record.Holds (columns :: lines)
      (records (dropMark (writeRecords (columns :: lines)))) := by
    rw [dropMark_writeRecords hsome]
    exact holds_records_writeRecords (List.forall_mem_cons.mpr ⟨hsome, hlines⟩)
  refine ⟨lines.map (Table.rowOfTexts columns), ?_, ?_⟩
  · rw [readTable_of_holds hread, tableOf, hnames]
  · rw [List.forall₂_map_right_iff, List.forall₂_same]
    intro line _
    exact holdsTexts_rowOfTexts hdistinct line

theorem readTable_writeRecords_crew :
    let columns := ["id", "full name", "note, or none"]
    let lines := [["1", "Ann \"A\"", "two\r\nlines,"], [""], ["", " B ", "", "\""]]
    columns ≠ [] ∧ columns.Nodup ∧ (∀ column ∈ columns, Text.IsTrimmed column.toList) ∧
      (∀ line ∈ lines, line ≠ []) ∧
      ∃ rows, readTable "crew" (writeRecords (columns :: lines)) =
          .ok { name := "crew", columns, rows } ∧
        List.Forall₂ (HoldsTexts columns) lines rows := by
  intro columns lines
  have hsome : columns ≠ [] := by decide
  have hdistinct : columns.Nodup := by decide
  have htrimmed : ∀ column ∈ columns, Text.IsTrimmed column.toList := by
    simp only [columns, List.forall_mem_cons, List.not_mem_nil, false_implies, implies_true,
      and_true]
    decide
  have hlines : ∀ line ∈ lines, line ≠ [] := by decide
  exact ⟨hsome, hdistinct, htrimmed, hlines,
    readTable_writeRecords "crew" hsome hdistinct htrimmed hlines⟩

end Csv
end TableQuery
