import TableQuery.Proofs.Json.RoundTrip

/-!
# Results shown after they were read

A number that is not finite is shown as a word, and as `NULL` after it was written as JSON.
None of the words is as long as `NULL` and equal to it, so a result that is read is shown as
it was if and only if all of its numbers are finite.
-/

namespace TableQuery

open Decimal Json

/-!
## Texts between separators
-/

section Separated

variable {ss ts : List String}

theorem length_intercalate_le (sep : String)
    (h : List.Forall₂ (fun s t => s.length ≤ t.length) ss ts) :
    (sep.intercalate ss).length ≤ (sep.intercalate ts).length := by
  induction h with
  | nil =>
      exact Nat.le_refl _
  | cons hfirst hrest ih =>
      cases hrest with
      | nil =>
          rw [String.intercalate_singleton, String.intercalate_singleton]
          exact hfirst
      | cons hnext hmore =>
          rw [String.intercalate_cons_cons, String.intercalate_cons_cons]
          simp only [String.length_append]
          omega

/-- Where no text gets shorter, the whole is the same only if every text is. -/
theorem eq_of_intercalate_eq {sep : String}
    (h : List.Forall₂ (fun s t => s.length ≤ t.length) ss ts)
    (heq : sep.intercalate ss = sep.intercalate ts) : ss = ts := by
  induction h with
  | nil =>
      rfl
  | @cons s t ss ts hfirst hrest ih =>
      cases hrest with
      | nil =>
          rw [String.intercalate_singleton, String.intercalate_singleton] at heq
          rw [heq]
      | cons hnext hmore =>
          have hlater := length_intercalate_le sep (List.Forall₂.cons hnext hmore)
          rw [String.intercalate_cons_cons, String.intercalate_cons_cons, String.append_assoc,
            String.append_assoc] at heq
          -- The rest does not get shorter either, so neither of them gets longer.
          have hlength : s.length = t.length := by
            have hwhole := congrArg String.length heq
            simp only [String.length_append] at hwhole
            omega
          have hparts := congrArg String.toList heq
          simp only [String.toList_append] at hparts
          rcases List.append_inj hparts (by rw [String.length_toList, String.length_toList,
            hlength]) with ⟨hs, hlist⟩
          have hsame := ih (String.toList_inj.mp (List.append_cancel_left hlist))
          rw [String.toList_inj.mp hs, hsame]

end Separated

/-!
## Cells
-/

namespace Cell

theorem display_unsignZero {x : Float} (h : isFinite x = true) :
    display (number (unsignZero x)) = display (number x) := by
  rcases isFinite_iff_exists.mp h with ⟨b, hkind⟩
  unfold unsignZero
  split
  · rename_i hzero
    have hinteger : writtenInteger? 0.0 = some 0 :=
      writtenInteger?_of_beq_zero (b := { negative := false, significand := 0, exponent := -1074 })
        (by decide) (by decide)
    simp only [display, displayNumber, hinteger, writtenInteger?_of_beq_zero hkind hzero]
  · rfl

theorem display_of_not_isFinite {x : Float} (h : ¬isFinite x = true) :
    display (number x) = "inf" ∨ display (number x) = "-inf" ∨ display (number x) = "NaN" := by
  cases hkind : kind x with
  | finite b =>
      exact absurd (isFinite_iff_exists.mpr ⟨b, hkind⟩) h
  | infinite negative =>
      cases negative <;> simp [display, displayNumber, writtenInteger?, hkind]
  | notANumber =>
      simp [display, displayNumber, writtenInteger?, hkind]

end Cell

namespace ResultTable

theorem cellText_carried_of_isFinite {cell : Cell} (h : cell.IsFinite) :
    cellText (some cell.carried) = cellText (some cell) := by
  cases cell with
  | null => rfl
  | text s => rfl
  | number x =>
      have hfinite : isFinite x = true := h
      rw [Cell.carried, if_pos hfinite]
      exact Cell.display_unsignZero hfinite

theorem cellText_carried_of_not_isFinite {cell : Cell} (h : ¬cell.IsFinite) :
    cellText (some cell) ≠ cellText (some cell.carried) ∧
      (cellText (some cell)).length ≤ (cellText (some cell.carried)).length := by
  cases cell with
  | null => exact absurd trivial h
  | text s => exact absurd trivial h
  | number x =>
      have hfinite : ¬isFinite x = true := h
      have htext : cellText (some (.number x)) = (Cell.number x).display := rfl
      rw [Cell.carried, if_neg hfinite, htext]
      rcases Cell.display_of_not_isFinite hfinite with hword | hword | hword
      all_goals
        rw [hword]
        decide

theorem length_cellText_le (cell : Option Cell) :
    (cellText cell).length ≤ (cellText (cell.map Cell.carried)).length := by
  cases cell with
  | none =>
      exact Nat.le_refl _
  | some cell =>
      by_cases h : cell.IsFinite
      · rw [Option.map_some, cellText_carried_of_isFinite h]
      · exact (cellText_carried_of_not_isFinite h).2

theorem cellText_carried_eq_iff (cell : Cell) :
    cellText (some cell) = cellText (some cell.carried) ↔ cell.IsFinite := by
  constructor
  · intro heq
    by_contra h
    exact (cellText_carried_of_not_isFinite h).1 heq
  · intro h
    exact (cellText_carried_of_isFinite h).symm

end ResultTable

/-!
## Rows
-/

theorem Row.get?_carried (row : Row) (key : String) :
    row.carried.get? key = (row.get? key).map Cell.carried := by
  have hlookup : ∀ entries : List (String × Cell),
      (entries.map fun entry => (entry.1, entry.2.carried)).lookup key =
        (entries.lookup key).map Cell.carried := by
    intro entries
    induction entries with
    | nil => rfl
    | cons entry entries ih =>
        rw [List.map_cons, List.lookup_cons, List.lookup_cons, ih]
        cases key == entry.1 <;> rfl
  exact hlookup row.entries

namespace ResultTable

/-- Every name of a row is a label of a column. -/
def ShowsAll (r : ResultTable) : Prop :=
  ∀ row ∈ r.rows, ∀ key ∈ row.keys, key ∈ r.columns

theorem length_rowText_le (columns : List String) (row : Row) :
    List.Forall₂ (fun s t => s.length ≤ t.length)
      (columns.map fun column => cellText (row.get? column))
      (columns.map fun column => cellText (row.carried.get? column)) := by
  rw [List.forall₂_map_left_iff, List.forall₂_map_right_iff, List.forall₂_same]
  intro column _
  rw [Row.get?_carried]
  exact length_cellText_le _

theorem rowText_carried_eq_iff {columns : List String} {row : Row}
    (hkeys : ∀ key ∈ row.keys, key ∈ columns) :
    rowText columns row = rowText columns row.carried ↔
      ∀ entry ∈ row.entries, entry.2.IsFinite := by
  constructor
  · intro heq entry hentry
    have hcells := eq_of_intercalate_eq (length_rowText_le columns row) heq
    have hcolumn : entry.1 ∈ columns := hkeys entry.1 (List.mem_map_of_mem hentry)
    have hcell := List.map_inj_left.mp hcells entry.1 hcolumn
    rw [Row.get?_carried, Row.get?_eq_some_iff.mpr hentry, Option.map_some] at hcell
    exact (cellText_carried_eq_iff entry.2).mp hcell
  · intro hfinite
    apply congrArg (String.intercalate "\t")
    apply List.map_inj_left.mpr
    intro column _
    rw [Row.get?_carried]
    cases hget : row.get? column with
    | none =>
        rfl
    | some cell =>
        exact (cellText_carried_eq_iff cell).mpr (hfinite _ (Row.get?_eq_some_iff.mp hget))

theorem length_lines_le (columns : List String) (rows : List Row) :
    List.Forall₂ (fun s t => s.length ≤ t.length) (rows.map (rowText columns))
      (rows.map (rowText columns ∘ Row.carried)) := by
  rw [List.forall₂_map_left_iff, List.forall₂_map_right_iff, List.forall₂_same]
  intro row _
  exact length_intercalate_le "\t" (length_rowText_le columns row)

/-- The result is shown as it was, exactly if all of its numbers are finite. -/
theorem text_eq_text_carried_iff {r : ResultTable} (hkeys : r.ShowsAll) :
    r.text = r.carried.text ↔ r.IsFinite := by
  have hlines : r.carried.rows.map (rowText r.columns) =
      r.rows.map (rowText r.columns ∘ Row.carried) := by
    rw [carried, List.map_map]
  have hcarried : r.carried.text = "\n".intercalate
      ("\t".intercalate r.columns :: r.rows.map (rowText r.columns ∘ Row.carried)) := by
    rw [← hlines]
    rfl
  rw [hcarried, text]
  constructor
  · intro heq row hrow
    have hsame := eq_of_intercalate_eq
      (.cons (Nat.le_refl _) (length_lines_le r.columns r.rows)) heq
    have hline := List.map_inj_left.mp (List.cons.inj hsame).2 row hrow
    exact (rowText_carried_eq_iff (hkeys row hrow)).mp hline
  · intro hfinite
    apply congrArg fun lines => "\n".intercalate ("\t".intercalate r.columns :: lines)
    apply List.map_inj_left.mpr
    intro row hrow
    exact (rowText_carried_eq_iff (hkeys row hrow)).mpr (hfinite row hrow)

end ResultTable

end TableQuery
