import TableQuery.Proofs.Decimal.Sums
import TableQuery.Proofs.Grouping.Partition

/-!
# Tallies of numbers

A tally that has taken in some rows holds the sum of the numbers that a column has in them,
from left to right, and the least and the greatest one.  Which other tallies are kept beside
it does not matter.
-/

namespace TableQuery
namespace Grouping

open Decimal (isFinite value total)

/-!
## Cells and numbers of a column
-/

/-- The cells of a column, in the order of the rows that have it. -/
def cellsOf (column : String) (rows : List Row) : List Cell :=
  rows.filterMap fun row => row.get? column

/-- The numbers that a column holds, in the order of the rows. -/
def readings (column : String) (rows : List Row) : List Float :=
  (cellsOf column rows).filterMap Cell.reading?

theorem isFinite_of_reading? {cell : Cell} {x : Float} (h : cell.reading? = some x) :
    isFinite x = true := by
  cases cell with
  | null =>
      cases h
  | number y =>
      rw [Cell.reading?] at h
      split at h
      · cases h
        assumption
      · cases h
  | text s =>
      rw [Cell.reading?, Decimal.readFinite?] at h
      exact (Option.filter_eq_some_iff.mp h).2

theorem isFinite_of_mem_readings {column : String} {rows : List Row} :
    ∀ x ∈ readings column rows, isFinite x = true := by
  intro x hx
  rcases List.mem_filterMap.mp hx with ⟨cell, _, hcell⟩
  exact isFinite_of_reading? hcell

theorem readings_concat (column : String) (rows : List Row) (row : Row) :
    readings column (rows ++ [row]) =
      readings column rows ++ ((row.get? column).bind Cell.reading?).toList := by
  rw [readings, cellsOf, List.filterMap_append, List.filterMap_append]
  cases hcell : row.get? column with
  | none =>
      simp [readings, cellsOf, hcell]
  | some cell =>
      cases hreading : cell.reading? with
      | none =>
          simp [readings, cellsOf, hcell, hreading]
      | some x =>
          simp [readings, cellsOf, hcell, hreading]

/-!
## Extreme numbers
-/

/-- One of the numbers that none of them comes before; there is none only of no numbers. -/
def IsExtreme (before : Float → Float → Prop) (xs : List Float) : Option Float → Prop
  | none => xs = []
  | some x => x ∈ xs ∧ ∀ y ∈ xs, ¬before y x

/-- Among finite numbers the order is that of a rank, which tells numbers apart. -/
structure IsRanked (before : Float → Float → Prop) (rank : Float → ℚ) : Prop where
  before_iff : ∀ x y, isFinite x = true → isFinite y = true →
    (before x y ↔ rank x < rank y)
  beq_iff : ∀ x y, isFinite x = true → isFinite y = true →
    ((x == y) = true ↔ rank x = rank y)

theorem isRanked_lt : IsRanked (fun x y => x < y) value where
  before_iff _ _ hx hy := Decimal.lt_iff_value_lt hx hy
  beq_iff _ _ hx hy := Decimal.beq_iff_value_eq hx hy

theorem isRanked_gt : IsRanked (fun x y => y < x) (fun x => -value x) where
  before_iff _ _ hx hy := (Decimal.lt_iff_value_lt hy hx).trans neg_lt_neg_iff.symm
  beq_iff _ _ hx hy := (Decimal.beq_iff_value_eq hx hy).trans neg_inj.symm

section Extremes

variable {before : Float → Float → Prop} {rank : Float → ℚ} {xs : List Float}
  {bound : Option Float} {x : Float}

/-- A further number is the new extreme one exactly if it comes before the old one. -/
theorem IsExtreme.concat (hrank : IsRanked before rank)
    (hfinite : ∀ y ∈ xs ++ [x], isFinite y = true) {pick : Float → Float}
    (hpick : ∀ b, before x b ∧ pick b = x ∨ ¬before x b ∧ pick b = b)
    (h : IsExtreme before xs bound) :
    IsExtreme before (xs ++ [x]) (some (bound.elim x pick)) := by
  rw [List.forall_mem_append, List.forall_mem_singleton] at hfinite
  have hself : ¬before x x := by
    rw [hrank.before_iff x x hfinite.2 hfinite.2]
    exact lt_irrefl _
  cases bound with
  | none =>
      have hnil : xs = [] := h
      subst hnil
      exact ⟨List.mem_singleton.mpr rfl, List.forall_mem_singleton.mpr hself⟩
  | some b =>
      rcases h with ⟨hmem, hleast⟩
      have hb := hfinite.1 b hmem
      rcases hpick b with ⟨hbefore, hnew⟩ | ⟨hbefore, hold⟩
      · rw [Option.elim_some, hnew]
        refine ⟨List.mem_append_right xs (List.mem_singleton.mpr rfl), ?_⟩
        rw [List.forall_mem_append, List.forall_mem_singleton]
        refine ⟨?_, hself⟩
        intro y hy hyx
        rw [hrank.before_iff y x (hfinite.1 y hy) hfinite.2] at hyx
        rw [hrank.before_iff x b hfinite.2 hb] at hbefore
        exact hleast y hy ((hrank.before_iff y b (hfinite.1 y hy) hb).mpr (hyx.trans hbefore))
      · rw [Option.elim_some, hold]
        refine ⟨List.mem_append_left [x] hmem, ?_⟩
        rw [List.forall_mem_append, List.forall_mem_singleton]
        exact ⟨hleast, hbefore⟩

end Extremes

/-!
## What a tally holds
-/

namespace Tally

/-- The tally holds what the numbers come to. -/
structure Holds (xs : List Float) (t : Tally) : Prop where
  sum : t.sum = total xs
  seen : t.seen = true ↔ xs ≠ []
  least : IsExtreme (fun x y => x < y) xs t.least
  greatest : IsExtreme (fun x y => y < x) xs t.greatest

theorem holds_empty : Holds [] empty where
  sum := rfl
  seen := by simp [empty]
  least := rfl
  greatest := rfl

theorem Holds.add {xs : List Float} {t : Tally} (h : Holds xs t) {x : Float}
    (hfinite : ∀ y ∈ xs ++ [x], isFinite y = true) : Holds (xs ++ [x]) (t.add x) where
  sum := by
    rw [Decimal.total_concat, ← h.sum]
    rfl
  seen := by simp [Tally.add]
  least := by
    apply h.least.concat isRanked_lt hfinite
    intro b
    by_cases hlt : x < b
    · exact Or.inl ⟨hlt, if_pos hlt⟩
    · exact Or.inr ⟨hlt, if_neg hlt⟩
  greatest := by
    apply h.greatest.concat isRanked_gt hfinite
    intro b
    by_cases hlt : b < x
    · exact Or.inl ⟨hlt, if_pos hlt⟩
    · exact Or.inr ⟨hlt, if_neg hlt⟩

/-- The tally of a field that has taken in the rows. -/
def ofRows (field : Field) (rows : List Row) : Tally :=
  rows.foldl (fun t row => t.take row field) empty

theorem ofRows_concat (field : Field) (rows : List Row) (row : Row) :
    ofRows field (rows ++ [row]) = (ofRows field rows).take row field := by
  rw [ofRows, List.foldl_append]
  rfl

theorem holds_ofRows {field : Field} {column : String} (h : field.source? = some column)
    (rows : List Row) : Holds (readings column rows) (ofRows field rows) := by
  induction rows using List.reverseRecOn with
  | nil =>
      exact holds_empty
  | append_singleton rows row ih =>
      have hfinite : ∀ x ∈ readings column (rows ++ [row]), isFinite x = true :=
        isFinite_of_mem_readings
      rw [readings_concat] at hfinite ⊢
      rw [ofRows_concat, take, h, Option.bind_some]
      cases hreading : (row.get? column).bind Cell.reading? with
      | none =>
          rw [Option.toList_none, List.append_nil]
          exact ih
      | some x =>
          rw [hreading] at hfinite
          exact ih.add hfinite

end Tally

/-!
## The tallies of a group
-/

namespace Accumulator

variable {fields : List Field}

theorem count_gather (rows : List Row) : (gather fields rows).count = rows.length := by
  induction rows using List.reverseRecOn with
  | nil =>
      rfl
  | append_singleton rows row ih =>
      rw [gather_concat, List.length_append, ← ih]
      rfl

/-- Each field has the tally of its own, if it has one. -/
theorem tallies_gather (rows : List Row) :
    (gather fields rows).tallies =
      fields.map fun field => (Tally.start? field).map fun _ => Tally.ofRows field rows := by
  induction rows using List.reverseRecOn with
  | nil =>
      rw [gather_nil, start]
      apply List.map_congr_left
      intro field _
      unfold Tally.start?
      split <;> rfl
  | append_singleton rows row ih =>
      rw [gather_concat, push, ih, List.zipWith_map_right, List.zipWith_self]
      apply List.map_congr_left
      intro field _
      rw [Option.map_map, Tally.ofRows_concat]
      rfl

end Accumulator

end Grouping
end TableQuery
