import Mathlib.Data.List.Induction
import TableQuery.Row

/-!
# Rows filled by name

Setting the cells of some names, each to a cell that the name determines, leaves every
other name as it was.  How often and in which order the names come does not matter for the
cells; the names of the row stand in the order in which they first came.
-/

namespace TableQuery

theorem eraseDups_concat {α : Type} [DecidableEq α] (xs : List α) (x : α) :
    (xs ++ [x]).eraseDups = if x ∈ xs then xs.eraseDups else xs.eraseDups ++ [x] := by
  rw [List.eraseDups_append]
  by_cases h : x ∈ xs
  · simp [List.removeAll, h]
  · simp [List.removeAll, List.eraseDups_cons, h]

namespace Row

/-!
## Cells
-/

theorem get?_insertAll_map (r : Row) (f : String → Cell) (names : List String) (key : String) :
    (r.insertAll (names.map fun name => (name, f name))).get? key =
      if key ∈ names then some (f key) else r.get? key := by
  induction names generalizing r with
  | nil =>
      simp
  | cons name names ih =>
      rw [List.map_cons, insertAll_cons, ih, get?_insert]
      by_cases hrest : key ∈ names
      · simp [hrest]
      · by_cases hname : key = name
        · simp [hname]
        · simp [hrest, hname]

theorem get?_ofList_map (f : String → Cell) (names : List String) (key : String) :
    (ofList (names.map fun name => (name, f name))).get? key =
      if key ∈ names then some (f key) else none :=
  get?_insertAll_map empty f names key

theorem get?_insertAll_of_notMem {r : Row} {entries : List (String × Cell)} {key : String}
    (h : key ∉ entries.map Prod.fst) : (r.insertAll entries).get? key = r.get? key := by
  induction entries generalizing r with
  | nil =>
      rfl
  | cons entry entries ih =>
      rw [List.map_cons, List.mem_cons, not_or] at h
      rw [insertAll_cons, ih h.2, get?_insert, if_neg h.1]

theorem mem_or_of_get?_insertAll {r : Row} {entries : List (String × Cell)} {key : String}
    {cell : Cell} (h : (r.insertAll entries).get? key = some cell) :
    (key, cell) ∈ entries ∨ r.get? key = some cell := by
  induction entries generalizing r with
  | nil =>
      exact Or.inr h
  | cons entry entries ih =>
      rw [insertAll_cons] at h
      rcases ih h with hmem | hget
      · exact Or.inl (List.mem_cons_of_mem entry hmem)
      · rw [get?_insert] at hget
        split at hget
        · rename_i hkey
          cases hget
          subst hkey
          exact Or.inl List.mem_cons_self
        · exact Or.inr hget

/-!
## Names
-/

theorem ofList_concat (entries : List (String × Cell)) (entry : String × Cell) :
    ofList (entries ++ [entry]) = (ofList entries).insert entry.1 entry.2 := by
  rw [ofList, insertAll_append]
  rfl

theorem keys_ofList (entries : List (String × Cell)) :
    (ofList entries).keys = (entries.map Prod.fst).eraseDups := by
  induction entries using List.reverseRecOn with
  | nil =>
      simp [ofList]
  | append_singleton entries entry ih =>
      rw [ofList_concat, keys_insert, ih, List.map_append, List.map_singleton,
        eraseDups_concat]
      simp only [List.mem_eraseDups]

theorem entries_insert_of_notMem {r : Row} {key : String} (h : key ∉ r.keys) (cell : Cell) :
    (r.insert key cell).entries = r.entries ++ [(key, cell)] := by
  have hput : ∀ entries : List (String × Cell), key ∉ entries.map Prod.fst →
      Entries.put key cell entries = entries ++ [(key, cell)] := by
    intro entries hnew
    induction entries with
    | nil =>
        rfl
    | cons entry entries ih =>
        rw [List.map_cons, List.mem_cons, not_or] at hnew
        rw [Entries.put, if_neg (Ne.symm hnew.1), ih hnew.2]
        rfl
  exact hput r.entries h

theorem entries_insertAll {r : Row} {entries : List (String × Cell)}
    (h : (r.keys ++ entries.map Prod.fst).Nodup) :
    (r.insertAll entries).entries = r.entries ++ entries := by
  induction entries generalizing r with
  | nil =>
      simp
  | cons entry entries ih =>
      have hnew : entry.1 ∉ r.keys := by
        intro hmem
        exact (List.nodup_append.mp h).2.2 _ hmem _ List.mem_cons_self rfl
      rw [insertAll_cons, ih, entries_insert_of_notMem hnew, List.append_assoc]
      · rfl
      · rw [keys_insert, if_neg hnew, List.append_assoc]
        exact h

/-- Setting the cells of a row one by one gives the row. -/
theorem ofList_entries (r : Row) : ofList r.entries = r :=
  ext (entries_insertAll (r := empty) r.distinct)

theorem exists_get?_of_mem_keys {r : Row} {key : String} (h : key ∈ r.keys) :
    ∃ cell, r.get? key = some cell := by
  cases hget : r.get? key with
  | some cell =>
      exact ⟨cell, rfl⟩
  | none =>
      rcases List.mem_map.mp h with ⟨entry, hentry, rfl⟩
      have hne := List.lookup_eq_none_iff.mp hget entry hentry
      simp at hne

theorem get?_eq_some_iff {r : Row} {key : String} {cell : Cell} :
    r.get? key = some cell ↔ (key, cell) ∈ r.entries := by
  rw [get?, List.lookup_eq_some_iff]
  constructor
  · rintro ⟨before, after, hentries, _⟩
    rw [hentries]
    exact List.mem_append_right _ List.mem_cons_self
  · intro h
    rcases List.append_of_mem h with ⟨before, after, hentries⟩
    refine ⟨before, after, hentries, ?_⟩
    intro entry hentry
    have hdistinct := r.distinct
    rw [hentries, List.map_append, List.nodup_append] at hdistinct
    rw [bne_iff_ne]
    exact (hdistinct.2.2 _ (List.mem_map_of_mem hentry) _ List.mem_cons_self).symm

theorem get?_eq_none_iff {r : Row} {key : String} : r.get? key = none ↔ key ∉ r.keys := by
  constructor
  · intro hget hkey
    rcases exists_get?_of_mem_keys hkey with ⟨cell, hcell⟩
    rw [hget] at hcell
    cases hcell
  · intro hkey
    cases hget : r.get? key with
    | none =>
        rfl
    | some cell =>
        exact absurd (List.mem_map_of_mem (get?_eq_some_iff.mp hget)) hkey

end Row
end TableQuery
