import Mathlib.Algebra.Ring.Nat
import Mathlib.Data.List.Forall2
import TableQuery.Proofs.Joining.Outer

/-!
# Matched and unmatched rows

A left join gives the rows of the inner join in their order, and one row more for each
row of the main table without a match.  The rows of a matching pair are built in two
ways, yet hold the same requested cells.
-/

namespace TableQuery

/-- The two rows hold the same cell under each of the names. -/
def Row.ShareCells (names : List String) (r s : Row) : Prop :=
  ∀ name ∈ names, ∃ cell, r.get? name = some cell ∧ s.get? name = some cell

namespace Joining

variable {table : String} {joined : List Row} {link : Link} {fields : List Field}

/-!
## Matches of a row
-/

/-- The number of rows that match a row of the main table. -/
def matchCount (link : Link) (joined : List Row) (row : Row) : Nat :=
  joined.countP fun candidate => link.matches? row candidate

def isMatched (link : Link) (joined : List Row) (row : Row) : Bool :=
  joined.any fun candidate => link.matches? row candidate

theorem length_partners (link : Link) (joined : List Row) (row : Row) :
    (partners link joined row).length = matchCount link joined row :=
  List.countP_eq_length_filter.symm

theorem isMatched_eq_false_iff {row : Row} :
    isMatched link joined row = false ↔ partners link joined row = [] := by
  simp [isMatched, partners, List.filter_eq_nil_iff]

theorem isMatched_of_partners_cons {row partner : Row} {rest : List Row}
    (h : partners link joined row = partner :: rest) : isMatched link joined row = true := by
  rw [← Bool.not_eq_false, isMatched_eq_false_iff, h]
  exact List.cons_ne_nil partner rest

theorem length_leftRows (row : Row) :
    (leftRows table joined link fields row).length =
      matchCount link joined row + if isMatched link joined row then 0 else 1 := by
  rw [← length_partners]
  cases h : partners link joined row with
  | nil =>
      rw [leftRows_eq_of_partners_nil h, isMatched_eq_false_iff.mpr h]
      rfl
  | cons partner rest =>
      rw [leftRows_eq_of_partners_cons h, isMatched_of_partners_cons h]
      simp

theorem length_leftRows_eq_one_iff (row : Row) :
    (leftRows table joined link fields row).length = 1 ↔ matchCount link joined row ≤ 1 := by
  rw [length_leftRows, ← length_partners]
  cases h : partners link joined row with
  | nil =>
      simp [isMatched_eq_false_iff.mpr h]
  | cons partner rest =>
      simp [isMatched_of_partners_cons h]

/-!
## Rows of matching pairs
-/

/-- The matching pairs of rows, by rows of the main table. -/
def matchingPairs (rows joined : List Row) (link : Link) : List (Row × Row) :=
  rows.flatMap fun row => (partners link joined row).map fun partner => (row, partner)

/-- The rows of a left join, each with the row of the main table that it is given for. -/
def emitted (main : Table) (joined : List Row) (link : Link) (fields : List Field) :
    List (Row × Row) :=
  main.rows.flatMap fun row =>
    (leftRows main.name joined link fields row).map fun given => (row, given)

theorem map_snd_emitted (main : Table) :
    (emitted main joined link fields).map Prod.snd = leftJoin main joined link fields := by
  simp [emitted, leftJoin, List.map_flatMap, Function.comp_def]

theorem innerJoin_eq_map (main : Table) :
    innerJoin main joined link fields =
      (matchingPairs main.rows joined link).map fun pair =>
        narrowRow main.name fields pair.1 (some pair.2) := by
  simp [innerJoin, matchingPairs, List.map_flatMap, Function.comp_def]

theorem filter_emitted_eq_map (main : Table) :
    ((emitted main joined link fields).filter fun entry =>
        isMatched link joined entry.1).map Prod.snd =
      (matchingPairs main.rows joined link).map fun pair =>
        wideRow main.name fields pair.1 (some pair.2) := by
  unfold emitted matchingPairs
  rw [List.filter_flatMap, List.map_flatMap, List.map_flatMap]
  apply List.flatMap_congr
  intro row _
  cases h : partners link joined row with
  | nil =>
      rw [leftRows_eq_of_partners_nil h]
      simp [isMatched_eq_false_iff.mpr h]
  | cons partner rest =>
      rw [leftRows_eq_of_partners_cons h]
      simp [isMatched_of_partners_cons h, List.filter_map, Function.comp_def]

theorem get?_narrowRow {main : Row} {partner : Option Row} {name : String}
    (hname : name ∈ sources fields) :
    (narrowRow table fields main partner).get? name =
      some (cellFor table main partner name) := by
  unfold narrowRow requested
  rw [Row.get?_ofList_map, if_pos hname]

theorem shareCells_wideRow_narrowRow (main : Row) (partner : Option Row) :
    (wideRow table fields main partner).ShareCells (sources fields)
      (narrowRow table fields main partner) := by
  intro name hname
  exact ⟨cellFor table main partner name, get?_wideRow hname, get?_narrowRow hname⟩

/-!
## Numbers of rows
-/

theorem length_le_sum_and_eq_iff {α : Type} (f : α → Nat) (xs : List α)
    (hf : ∀ x ∈ xs, 1 ≤ f x) :
    xs.length ≤ (xs.map f).sum ∧ ((xs.map f).sum = xs.length ↔ ∀ x ∈ xs, f x = 1) := by
  induction xs with
  | nil =>
      simp
  | cons x xs ih =>
      rw [List.forall_mem_cons] at hf
      rcases ih hf.2 with ⟨hle, hiff⟩
      have hx := hf.1
      rw [List.map_cons, List.sum_cons, List.length_cons, List.forall_mem_cons, ← hiff]
      omega

theorem length_innerJoin (main : Table) :
    (innerJoin main joined link fields).length =
      (main.rows.map (matchCount link joined)).sum := by
  simp [innerJoin, List.length_flatMap, length_partners]

theorem length_leftJoin (main : Table) :
    (leftJoin main joined link fields).length =
      (innerJoin main joined link fields).length +
        main.rows.countP fun row => !isMatched link joined row := by
  rw [length_innerJoin, leftJoin, List.length_flatMap]
  induction main.rows with
  | nil =>
      rfl
  | cons row rows ih =>
      rw [List.map_cons, List.map_cons, List.sum_cons, List.sum_cons, List.countP_cons, ih,
        length_leftRows]
      cases isMatched link joined row <;>
        simp only [Bool.not_true, Bool.not_false, Bool.false_eq_true, if_true, if_false] <;>
        omega

/-- A left join without the rows for unmatched rows of the main table is the inner join,
row by row on the requested cells, and the numbers of rows of all joins follow from the
numbers of matches. -/
theorem leftJoin_extends_innerJoin (main : Table) (joined : List Row) (link : Link)
    (fields : List Field) :
    (emitted main joined link fields).map Prod.snd = leftJoin main joined link fields ∧
      List.Forall₂ (Row.ShareCells (sources fields))
        (((emitted main joined link fields).filter fun entry =>
          isMatched link joined entry.1).map Prod.snd)
        (innerJoin main joined link fields) ∧
      (innerJoin main joined link fields).length =
        (main.rows.map (matchCount link joined)).sum ∧
      (leftJoin main joined link fields).length =
        (innerJoin main joined link fields).length +
          main.rows.countP (fun row => !isMatched link joined row) ∧
      main.rows.length ≤ (leftJoin main joined link fields).length ∧
      ((leftJoin main joined link fields).length = main.rows.length ↔
        ∀ row ∈ main.rows, matchCount link joined row ≤ 1) ∧
      (rightJoin main joined link fields).length = joined.length := by
  have hnonempty : ∀ row ∈ main.rows,
      1 ≤ (leftRows main.name joined link fields row).length := by
    intro row _
    exact List.length_pos_iff.mpr (leftRows_ne_nil row)
  have hleft : (leftJoin main joined link fields).length =
      (main.rows.map fun row => (leftRows main.name joined link fields row).length).sum :=
    List.length_flatMap
  rcases length_le_sum_and_eq_iff _ main.rows hnonempty with ⟨hle, hiff⟩
  refine ⟨map_snd_emitted main, ?_, length_innerJoin main, length_leftJoin main, ?_, ?_, ?_⟩
  · rw [filter_emitted_eq_map, innerJoin_eq_map, List.forall₂_map_left_iff,
      List.forall₂_map_right_iff, List.forall₂_same]
    intro pair _
    exact shareCells_wideRow_narrowRow pair.1 (some pair.2)
  · rw [hleft]
    exact hle
  · rw [hleft, hiff]
    apply forall₂_congr
    intro row _
    exact length_leftRows_eq_one_iff row
  · exact List.length_map _

end Joining
end TableQuery
