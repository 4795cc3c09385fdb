import TableQuery.Proofs.Grouping.Tallies
import TableQuery.Proofs.Query.Labels

/-!
# The row that rows sum up to

Under the label of each field stands what the field asks of the rows.  Which other fields are
asked for, in which order and how often, does not matter.
-/

namespace TableQuery
namespace Grouping

open Decimal (isFinite value total)

/-!
## Cells that are not null
-/

/-- The row has the column, with a cell that is not null. -/
def HasCell (column : String) (row : Row) : Prop :=
  ∃ cell, row.get? column = some cell ∧ cell.isNull = false

/-- The number of cells of a column that are not null. -/
def present (column : String) (rows : List Row) : Nat :=
  (cellsOf column rows).countP fun cell => !cell.isNull

theorem isNull_getD_eq_false_iff {column : String} {row : Row} :
    (row.getD column).isNull = false ↔ HasCell column row := by
  rw [Row.getD, HasCell]
  cases row.get? column with
  | none =>
      simp [Cell.isNull]
  | some cell =>
      simp

theorem presentCount_eq (column : String) (rows : List Row) :
    presentCount column rows = present column rows := by
  rw [presentCount, present, cellsOf, List.countP_filterMap]
  apply List.countP_congr
  intro row _
  rw [Row.getD]
  cases row.get? column with
  | none =>
      simp [Cell.isNull]
  | some cell =>
      simp

theorem present_le_length (column : String) (rows : List Row) :
    present column rows ≤ rows.length := by
  rw [← presentCount_eq]
  exact List.countP_le_length

theorem present_eq_length_iff {column : String} {rows : List Row} :
    present column rows = rows.length ↔ ∀ row ∈ rows, HasCell column row := by
  rw [← presentCount_eq, presentCount, List.countP_eq_length]
  simp only [Bool.not_eq_true', isNull_getD_eq_false_iff]

/-- A column that holds a number holds a cell that is not null. -/
theorem present_pos {column : String} {rows : List Row} (h : readings column rows ≠ []) :
    0 < present column rows := by
  rcases List.exists_mem_of_ne_nil _ h with ⟨x, hx⟩
  rcases List.mem_filterMap.mp hx with ⟨cell, hcell, hreading⟩
  rw [present, List.countP_pos_iff]
  refine ⟨cell, hcell, ?_⟩
  cases cell with
  | null =>
      cases hreading
  | number y =>
      rfl
  | text s =>
      rfl

/-!
## What a field asks for
-/

/-- The cell that a field asks of some rows. -/
inductive Gives (rows : List Row) : Field → Cell → Prop where
  | column (name : String) :
      Gives rows (.column name) ((rows.head?.bind fun row => row.get? name).getD .null)
  | count : Gives rows (.aggregate .count .star) (.number (.ofNat rows.length))
  | present (c : String) :
      Gives rows (.aggregate .count (.column c)) (.number (.ofNat (present c rows)))
  | sum (c : String) :
      Gives rows (.aggregate .sum (.column c)) (.number (total (readings c rows)))
  | noAverage {c : String} : readings c rows = [] →
      Gives rows (.aggregate .avg (.column c)) (.number 0.0)
  | average {c : String} : readings c rows ≠ [] → 0 < Grouping.present c rows →
      Gives rows (.aggregate .avg (.column c))
        (.number (total (readings c rows) / .ofNat (Grouping.present c rows)))
  | least {c : String} {bound : Option Float} :
      IsExtreme (fun x y => x < y) (readings c rows) bound →
        Gives rows (.aggregate .min (.column c)) (cellOf bound)
  | greatest {c : String} {bound : Option Float} :
      IsExtreme (fun x y => y < x) (readings c rows) bound →
        Gives rows (.aggregate .max (.column c)) (cellOf bound)
  | sumOfRows : Gives rows (.aggregate .sum .star) (.number 0.0)
  | averageOfRows : Gives rows (.aggregate .avg .star) (.number 0.0)
  | leastOfRows : Gives rows (.aggregate .min .star) .null
  | greatestOfRows : Gives rows (.aggregate .max .star) .null

/-- The cell of a field in the row that the rows sum up to. -/
def cellIn (rows : List Row) (field : Field) : Cell :=
  Accumulator.value { count := rows.length, rows := rows, tallies := [] }
    (Tally.ofRows field rows) field

theorem Tally.ofRows_of_source? {field : Field} (h : field.source? = none) (rows : List Row) :
    Tally.ofRows field rows = .empty := by
  induction rows using List.reverseRecOn with
  | nil =>
      rfl
  | append_singleton rows row ih =>
      rw [ofRows_concat, ih, take, h]
      rfl

theorem gives_average {column : String} {rows : List Row} {t : Tally}
    (h : t.Holds (readings column rows)) :
    Gives rows (.aggregate .avg (.column column))
      (if t.seen then .number (t.sum / Float.ofNat (presentCount column rows))
        else .number 0.0) := by
  rw [h.sum, presentCount_eq]
  by_cases hseen : t.seen = true
  · have hne := h.seen.mp hseen
    rw [if_pos hseen]
    exact Gives.average hne (present_pos hne)
  · have hnil : readings column rows = [] := not_not.mp (mt h.seen.mpr hseen)
    rw [if_neg hseen]
    exact Gives.noAverage hnil

theorem gives_cellIn (rows : List Row) (field : Field) : Gives rows field (cellIn rows field) := by
  cases field with
  | column name =>
      exact Gives.column name
  | aggregate f argument =>
      cases argument with
      | star =>
          rw [cellIn, Tally.ofRows_of_source? rfl]
          cases f with
          | count => exact Gives.count
          | sum => exact Gives.sumOfRows
          | avg => exact Gives.averageOfRows
          | min => exact Gives.leastOfRows
          | max => exact Gives.greatestOfRows
      | column c =>
          have hholds : (Tally.ofRows (.aggregate f (.column c)) rows).Holds (readings c rows) :=
            Tally.holds_ofRows rfl rows
          cases f with
          | count =>
              rw [cellIn, Accumulator.value, presentCount_eq]
              exact Gives.present c
          | sum =>
              rw [cellIn, Accumulator.value, hholds.sum]
              exact Gives.sum c
          | avg =>
              exact gives_average hholds
          | min =>
              exact Gives.least hholds.least
          | max =>
              exact Gives.greatest hholds.greatest

/-!
## The cells of the row
-/

namespace Accumulator

variable {fields : List Field}

/-- The cell of a field depends on the rows and on the field's own tally only. -/
theorem value_gather (rows : List Row) (field : Field) :
    (gather fields rows).value
        (((Tally.start? field).map fun _ => Tally.ofRows field rows).getD .empty) field =
      cellIn rows field := by
  cases field with
  | column name =>
      rw [value, rows_gather]
      rfl
  | aggregate f argument =>
      cases argument with
      | star =>
          rw [cellIn, Tally.ofRows_of_source? rfl]
          cases f with
          | count =>
              rw [value, count_gather]
              rfl
          | sum => rfl
          | avg => rfl
          | min => rfl
          | max => rfl
      | column c =>
          cases f with
          | count =>
              rw [value, rows_gather]
              rfl
          | sum => rfl
          | avg =>
              rw [value, rows_gather]
              rfl
          | min => rfl
          | max => rfl

theorem finish_gather (rows : List Row) :
    (gather fields rows).finish fields =
      Row.ofList (fields.map fun field => (field.label, cellIn rows field)) := by
  rw [finish]
  apply congrArg Row.ofList
  apply List.ext_getElem
  · simp
  · intro i hi hi'
    rw [List.length_map] at hi'
    have htally : ((gather fields rows).tallies[i]?.join).getD .empty =
        (((Tally.start? fields[i]).map fun _ => Tally.ofRows fields[i] rows).getD .empty) := by
      rw [tallies_gather, List.getElem?_map, List.getElem?_eq_getElem hi']
      rfl
    rw [List.getElem_mapIdx, List.getElem_map, htally, value_gather]

end Accumulator

theorem get?_summary {fields : List Field} (h : Field.AreToldApart fields) {field : Field}
    (hfield : field ∈ fields) (rows : List Row) :
    (summary rows fields).get? field.label = some (cellIn rows field) := by
  rw [summary, Accumulator.finish_gather]
  have hkey : field.label ∈
      (Row.ofList (fields.map fun field => (field.label, cellIn rows field))).keys := by
    rw [Row.keys_ofList, List.mem_eraseDups, List.map_map]
    exact List.mem_map_of_mem hfield
  rcases Row.exists_get?_of_mem_keys hkey with ⟨cell, hcell⟩
  rcases Row.mem_or_of_get?_insertAll hcell with hmem | hnone
  · rcases List.mem_map.mp hmem with ⟨other, hother, heq⟩
    rw [Prod.mk.injEq] at heq
    rw [hcell, ← heq.2, h field hfield other hother heq.1.symm]
  · cases hnone

/-- Each field that texts ask for has a cell of its own, which only the rows and the field
determine.  The cells of a column that are not null are as many as the rows exactly if the
column is never null and never missing, and so are the numbers that are shown for them: of up
to `2 ^ 53` rows, no number is rounded. -/
theorem summary_gives (rows : List Row) :
    ∃ cellOf : Field → Cell, (∀ field, Gives rows field (cellOf field)) ∧
      (∀ texts : List String, ∀ field ∈ texts.map Field.ofText,
        (summary rows (texts.map Field.ofText)).get? field.label = some (cellOf field)) ∧
      ∀ c : String, (∀ x ∈ readings c rows, isFinite x = true) ∧
        present c rows ≤ rows.length ∧
        (present c rows = rows.length ↔ ∀ row ∈ rows, HasCell c row) ∧
        (rows.length ≤ 2 ^ 53 →
          value (Float.ofNat rows.length) = rows.length ∧
          value (Float.ofNat (present c rows)) = present c rows ∧
          Float.ofNat (present c rows) ≤ Float.ofNat rows.length ∧
          ((Float.ofNat (present c rows) == Float.ofNat rows.length) = true ↔
            ∀ row ∈ rows, HasCell c row) ∧
          (readings c rows ≠ [] → (Float.ofNat (present c rows) == 0.0) = false)) := by
  refine ⟨cellIn rows, gives_cellIn rows, ?_, ?_⟩
  · intro texts field hfield
    exact get?_summary (Field.areToldApart_ofText texts) hfield rows
  · intro c
    refine ⟨isFinite_of_mem_readings, present_le_length c rows, present_eq_length_iff, ?_⟩
    intro hlength
    have hpresent := Decimal.value_ofNat ((present_le_length c rows).trans hlength)
    have hrows := Decimal.value_ofNat hlength
    refine ⟨hrows.2, hpresent.2, ?_, ?_, ?_⟩
    · rw [Decimal.le_iff_value_le hpresent.1 hrows.1, hpresent.2, hrows.2, Nat.cast_le]
      exact present_le_length c rows
    · rw [Decimal.beq_iff_value_eq hpresent.1 hrows.1, hpresent.2, hrows.2, Nat.cast_inj]
      exact present_eq_length_iff
    · intro hne
      rw [Bool.eq_false_iff, ne_eq, Decimal.beq_iff_value_eq hpresent.1 (by decide),
        hpresent.2, Decimal.value_zero, Nat.cast_eq_zero]
      exact (present_pos hne).ne'

/-- Of five rows, two have a number in the column, one has a text that is no finite number, one
a null, and one does not have the column. -/
theorem summary_gives_mixed :
    let rows := [Row.ofList [("a", .text "1")], Row.ofList [("a", .null)],
      Row.ofList [("b", .text "2")], Row.ofList [("a", .text "inf")],
      Row.ofList [("a", .text " 2.5 ")]]
    let fields := ["sum(a)", "COUNT(*)", " avg( a )", "a", "COUNT(a)", "SUM(a)"].map Field.ofText
    rows.length ≤ 2 ^ 53 ∧
      (∃ cell, (summary rows fields).get? "SUM(a)" = some cell ∧
        Gives rows (.aggregate .sum (.column "a")) cell) ∧
      (∃ cell, (summary rows fields).get? "AVG(a)" = some cell ∧
        Gives rows (.aggregate .avg (.column "a")) cell) ∧
      readings "a" rows ≠ [] ∧ (Float.ofNat (present "a" rows) == 0.0) = false := by
  intro rows fields
  have hlength : rows.length ≤ 2 ^ 53 := by decide
  have hne : readings "a" rows ≠ [] := by decide +kernel
  rcases summary_gives rows with ⟨cellOf, hgives, hcell, hcount⟩
  refine ⟨hlength, ?_, ?_, hne, ?_⟩
  · exact ⟨_, hcell _ (.aggregate .sum (.column "a")) (by decide +kernel), hgives _⟩
  · exact ⟨_, hcell _ (.aggregate .avg (.column "a")) (by decide +kernel), hgives _⟩
  · rcases hcount "a" with ⟨_, _, _, hcounts⟩
    exact (hcounts hlength).2.2.2.2 hne

end Grouping
end TableQuery
