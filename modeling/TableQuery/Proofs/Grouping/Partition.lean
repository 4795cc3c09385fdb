import Mathlib.Data.List.Basic
import Mathlib.Data.List.Induction
import TableQuery.Grouping
import TableQuery.Proofs.Row.Filling

/-!
# The groups of a partition

A partition that has taken in some rows holds one group for each key among them, in
the order in which the keys first occur, and that group has taken in exactly the rows
with its key.  Grouping is therefore the same as summing up the rows of each key.
-/

namespace TableQuery
namespace Grouping

/-!
## Keys of rows
-/

/-- The keys of the rows, each once, in the order in which they first occur. -/
def firstKeys (keyOf : Row → String) (rows : List Row) : List String :=
  (rows.map keyOf).eraseDups

/-- The rows with a key, in their order. -/
def rowsOf (keyOf : Row → String) (k : String) (rows : List Row) : List Row :=
  rows.filter fun row => keyOf row = k

variable {fields : List Field} {keyOf : Row → String}

@[simp]
theorem firstKeys_nil : firstKeys keyOf [] = [] :=
  rfl

theorem mem_firstKeys {k : String} {rows : List Row} :
    k ∈ firstKeys keyOf rows ↔ ∃ row ∈ rows, keyOf row = k := by
  simp [firstKeys, List.mem_eraseDups]

theorem firstKeys_concat (rows : List Row) (row : Row) :
    firstKeys keyOf (rows ++ [row]) =
      if keyOf row ∈ firstKeys keyOf rows then
        firstKeys keyOf rows
      else
        firstKeys keyOf rows ++ [keyOf row] := by
  rw [firstKeys, List.map_append, List.map_singleton, eraseDups_concat]
  simp only [firstKeys, List.mem_eraseDups]

theorem nodup_firstKeys (keyOf : Row → String) (rows : List Row) : (firstKeys keyOf rows).Nodup := by
  induction rows using List.reverseRecOn with
  | nil =>
      simp
  | append_singleton rows row ih =>
      rw [firstKeys_concat]
      split
      · exact ih
      · rename_i hnew
        rw [List.nodup_append]
        refine ⟨ih, by simp, ?_⟩
        intro k hk k' hk' heq
        rw [List.mem_singleton] at hk'
        exact hnew (hk' ▸ heq ▸ hk)

theorem mem_rowsOf {k : String} {rows : List Row} {row : Row} :
    row ∈ rowsOf keyOf k rows ↔ row ∈ rows ∧ keyOf row = k := by
  simp [rowsOf]

theorem rowsOf_cons (k : String) (row : Row) (rows : List Row) :
    rowsOf keyOf k (row :: rows) =
      if keyOf row = k then row :: rowsOf keyOf k rows else rowsOf keyOf k rows := by
  by_cases h : keyOf row = k <;> simp [rowsOf, h]

theorem rowsOf_concat (k : String) (rows : List Row) (row : Row) :
    rowsOf keyOf k (rows ++ [row]) =
      if keyOf row = k then rowsOf keyOf k rows ++ [row] else rowsOf keyOf k rows := by
  unfold rowsOf
  rw [List.filter_append]
  by_cases h : keyOf row = k <;> simp [h]

theorem rowsOf_eq_nil {k : String} {rows : List Row} (h : k ∉ firstKeys keyOf rows) :
    rowsOf keyOf k rows = [] := by
  rw [List.eq_nil_iff_forall_not_mem]
  intro row hrow
  exact h (mem_firstKeys.mpr ⟨row, mem_rowsOf.mp hrow⟩)

/-!
## Groups
-/

namespace Accumulator

@[simp]
theorem gather_nil : gather fields [] = start fields :=
  rfl

theorem gather_concat (rows : List Row) (row : Row) :
    gather fields (rows ++ [row]) = (gather fields rows).push fields row := by
  simp [gather]

theorem rows_gather (rows : List Row) : (gather fields rows).rows = rows := by
  induction rows using List.reverseRecOn with
  | nil =>
      rfl
  | append_singleton rows row ih =>
      rw [gather_concat]
      simp [push, ih]

end Accumulator

/-!
## The partition that rows lead to
-/

namespace Partition

/-- The partition holds the group of each of the keys in turn, and each key's place
is its position among the keys. -/
structure Holds (fields : List Field) (keyOf : Row → String) (keys : List String)
    (rows : List Row) (p : Partition) : Prop where
  groups : p.groups.toList = keys.map fun k => Accumulator.gather fields (rowsOf keyOf k rows)
  places : ∀ k i, p.places.lookup k = some i ↔ keys[i]? = some k

variable {keys : List String} {rows : List Row} {p : Partition}

private theorem getElem?_concat_eq_some_iff {k k' : String} {i : Nat} :
    (keys ++ [k])[i]? = some k' ↔ keys[i]? = some k' ∨ i = keys.length ∧ k = k' := by
  rw [List.getElem?_append]
  split
  · rename_i hlt
    constructor
    · exact Or.inl
    · rintro (hkey | ⟨rfl, _⟩)
      · exact hkey
      · exact absurd hlt (Nat.lt_irrefl _)
  · rename_i hle
    rw [List.getElem?_eq_none (Nat.le_of_not_lt hle)]
    rw [List.getElem?_singleton]
    split <;> simp <;> omega

theorem Holds.size_groups (h : Holds fields keyOf keys rows p) :
    p.groups.size = keys.length := by
  rw [← Array.length_toList, h.groups, List.length_map]

theorem Holds.lookup_eq_none_iff (h : Holds fields keyOf keys rows p) {k : String} :
    p.places.lookup k = none ↔ k ∉ keys := by
  rw [Option.eq_none_iff_forall_ne_some, List.mem_iff_getElem?, not_exists]
  exact forall_congr' fun i => not_congr (h.places k i)

theorem Holds.locate (h : Holds fields keyOf keys rows p) {k : String}
    (hnew : k ∉ keys → rowsOf keyOf k rows = []) :
    let keys' := if k ∈ keys then keys else keys ++ [k]
    Holds fields keyOf keys' rows (p.locate fields k).1 ∧
      keys'[(p.locate fields k).2]? = some k := by
  intro keys'
  cases hplace : p.places.lookup k with
  | some place =>
      have hkey : keys[place]? = some k := (h.places k place).mp hplace
      have hmem : k ∈ keys := List.mem_of_getElem? hkey
      simp only [Partition.locate, hplace, keys', if_pos hmem]
      exact ⟨h, hkey⟩
  | none =>
      -- A new key has no rows yet, so the group that is opened for it holds what the
      -- others do: the rows of its key.
      have hmem : k ∉ keys := h.lookup_eq_none_iff.mp hplace
      simp only [Partition.locate, hplace, keys', if_neg hmem, h.size_groups]
      refine ⟨⟨?_, ?_⟩, by simp⟩
      · simp [h.groups, hnew hmem]
      · intro k' i
        rw [getElem?_concat_eq_some_iff, ← h.places k' i]
        by_cases heq : k' = k
        · subst heq
          simp [hplace, eq_comm]
        · have hb : (k' == k) = false := by simpa using heq
          simp [List.lookup_cons, hb, Ne.symm heq]

theorem Holds.modify (hdistinct : keys.Nodup) (h : Holds fields keyOf keys rows p) {row : Row}
    {place : Nat} (hplace : keys[place]? = some (keyOf row)) :
    Holds fields keyOf keys (rows ++ [row])
      { p with groups := p.groups.modify place fun group => group.push fields row } := by
  refine ⟨?_, h.places⟩
  apply List.ext_getElem?
  intro i
  simp only [Array.toList_modify, List.getElem?_modify, h.groups, List.getElem?_map]
  cases hkey : keys[i]? with
  | none =>
      rfl
  | some k =>
      -- The keys are distinct, so only the group at the row's place has its key.
      have hiff : place = i ↔ keyOf row = k := by
        have hlt : place < keys.length := (List.getElem?_eq_some_iff.mp hplace).1
        rw [← List.getElem?_inj hlt hdistinct, hplace, hkey, Option.some_inj]
      by_cases heq : keyOf row = k
      · simp [hiff.mpr heq, rowsOf_concat, heq, Accumulator.gather_concat]
      · simp [mt hiff.mp heq, rowsOf_concat, heq]

theorem holds_ofRows (fields : List Field) (keyOf : Row → String) (rows : List Row) :
    Holds fields keyOf (firstKeys keyOf rows) rows (ofRows fields keyOf rows) := by
  induction rows using List.reverseRecOn with
  | nil =>
      exact ⟨rfl, by simp [ofRows, empty]⟩
  | append_singleton rows row ih =>
      have hstep : ofRows fields keyOf (rows ++ [row]) =
          (ofRows fields keyOf rows).add fields keyOf row := by
        simp [ofRows]
      have hdistinct := nodup_firstKeys keyOf (rows ++ [row])
      rw [hstep]
      rw [firstKeys_concat] at hdistinct ⊢
      rcases ih.locate (rowsOf_eq_nil (k := keyOf row)) with ⟨hlocated, hplace⟩
      exact hlocated.modify hdistinct hplace

end Partition

/-!
## One row for each key
-/

theorem groupRows_eq_map (groupBy : Option (List String)) (isSummary : Bool)
    (fields : List Field) (rows : List Row) :
    groupRows groupBy isSummary fields rows =
      (firstKeys (key groupBy isSummary) rows).map fun k =>
        summary (rowsOf (key groupBy isSummary) k rows) fields := by
  have hholds := Partition.holds_ofRows fields (key groupBy isSummary) rows
  unfold groupRows
  rw [Array.toList_map, hholds.groups, List.map_map]
  rfl

theorem flatMap_rowsOf_cons_perm {keys : List String} (hdistinct : keys.Nodup) {row : Row}
    (hmem : keyOf row ∈ keys) (rows : List Row) :
    (keys.flatMap fun k => rowsOf keyOf k (row :: rows)).Perm
      (row :: keys.flatMap fun k => rowsOf keyOf k rows) := by
  induction keys with
  | nil =>
      cases hmem
  | cons k keys ih =>
      rw [List.nodup_cons] at hdistinct
      rw [List.flatMap_cons, List.flatMap_cons, rowsOf_cons]
      by_cases heq : keyOf row = k
      · have hothers : (keys.flatMap fun k' => rowsOf keyOf k' (row :: rows)) =
            keys.flatMap fun k' => rowsOf keyOf k' rows := by
          apply List.flatMap_congr
          intro k' hk'
          have hne : keyOf row ≠ k' := fun h => hdistinct.1 (heq ▸ h ▸ hk')
          rw [rowsOf_cons, if_neg hne]
        rw [if_pos heq, hothers]
        exact List.Perm.refl _
      · have hmem' : keyOf row ∈ keys := (List.mem_cons.mp hmem).resolve_left heq
        rw [if_neg heq]
        exact ((ih hdistinct.2 hmem').append_left _).trans List.perm_middle

theorem flatMap_rowsOf_perm {keys : List String} (hdistinct : keys.Nodup) {rows : List Row}
    (hkeys : ∀ row ∈ rows, keyOf row ∈ keys) :
    (keys.flatMap fun k => rowsOf keyOf k rows).Perm rows := by
  induction rows with
  | nil =>
      simp [rowsOf]
  | cons row rows ih =>
      have hrow : keyOf row ∈ keys := hkeys row (List.mem_cons_self ..)
      have hrest : ∀ row ∈ rows, keyOf row ∈ keys := fun row h =>
        hkeys row (List.mem_cons_of_mem _ h)
      exact (flatMap_rowsOf_cons_perm hdistinct hrow rows).trans ((ih hrest).cons row)

theorem groupRows_eq_singleton {groupBy : Option (List String)} {isSummary : Bool}
    {k : String} (hconst : ∀ row, key groupBy isSummary row = k) (fields : List Field)
    {rows : List Row} (hrows : rows ≠ []) :
    groupRows groupBy isSummary fields rows = [summary rows fields] := by
  have hkeys : firstKeys (key groupBy isSummary) rows = [k] := by
    induction rows using List.reverseRecOn with
    | nil =>
        exact absurd rfl hrows
    | append_singleton rows row ih =>
        rw [firstKeys_concat, hconst row]
        by_cases hnil : rows = []
        · simp [hnil]
        · simp [ih hnil]
  have hall : rowsOf (key groupBy isSummary) k rows = rows := by
    simp [rowsOf, hconst]
  rw [groupRows_eq_map, hkeys, List.map_singleton, hall]

/-- Grouping gives one row for each key, in the order in which the keys first occur:
the row that all rows with that key sum up to.  Every row has exactly one key, so no
rows give no group; and without names to group by all rows are in one group. -/
theorem groupRows_eq_summaries (groupBy : Option (List String)) (isSummary : Bool)
    (fields : List Field) (rows : List Row) :
    let keyOf := key groupBy isSummary
    groupRows groupBy isSummary fields rows =
        (firstKeys keyOf rows).map (fun k => summary (rowsOf keyOf k rows) fields) ∧
      (firstKeys keyOf rows).Nodup ∧
      ((firstKeys keyOf rows).flatMap fun k => rowsOf keyOf k rows).Perm rows ∧
      groupRows groupBy isSummary fields [] = [] ∧
      groupRows none isSummary fields rows =
        (if rows.isEmpty then [] else [summary rows fields]) := by
  intro keyOf
  refine ⟨groupRows_eq_map groupBy isSummary fields rows, nodup_firstKeys keyOf rows, ?_, ?_, ?_⟩
  · apply flatMap_rowsOf_perm (nodup_firstKeys keyOf rows)
    intro row hrow
    exact mem_firstKeys.mpr ⟨row, hrow, rfl⟩
  · simp [groupRows_eq_map]
  · cases rows with
    | nil =>
        simp [groupRows_eq_map]
    | cons row rows =>
        exact groupRows_eq_singleton (fun _ => rfl) fields (List.cons_ne_nil row rows)

end Grouping
end TableQuery
