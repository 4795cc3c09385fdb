import TableQuery.Proofs.Execution.Shape
import TableQuery.Proofs.Grouping.Summary
import TableQuery.Proofs.Joining.Owners

/-!
# Cells of an outcome

On their way from the tables to the outcome cells are copied, and numbers and nulls are added to
them.  No text is made: what holds of the texts of the tables holds of the texts of the outcome.
-/

namespace TableQuery

namespace Cell

/-- A property of texts: nulls and numbers have it. -/
structure IsOfTexts (P : Cell → Prop) : Prop where
  null : P .null
  number : ∀ x, P (.number x)

end Cell

/-!
## Cells of a row
-/

namespace Row

/-- All cells of the row have the property. -/
def Forall (P : Cell → Prop) (row : Row) : Prop :=
  ∀ name cell, row.get? name = some cell → P cell

variable {P : Cell → Prop} {row : Row}

theorem forall_empty : empty.Forall P := by
  intro name cell hcell
  cases hcell

theorem Forall.insertAll (h : row.Forall P) {entries : List (String × Cell)}
    (hentries : ∀ entry ∈ entries, P entry.2) : (row.insertAll entries).Forall P := by
  intro name cell hcell
  rcases mem_or_of_get?_insertAll hcell with hmem | hget
  · exact hentries _ hmem
  · exact h name cell hget

theorem forall_ofList {entries : List (String × Cell)} (h : ∀ entry ∈ entries, P entry.2) :
    (ofList entries).Forall P :=
  forall_empty.insertAll h

theorem Forall.entries (h : row.Forall P) : ∀ entry ∈ row.entries, P entry.2 := by
  intro entry hentry
  exact h entry.1 entry.2 (get?_eq_some_iff.mpr hentry)

theorem Forall.lookup? (h : row.Forall P) {name : String} {cell : Cell}
    (hcell : row.lookup? name = some cell) : P cell := by
  rw [Row.lookup?, Option.or_eq_some_iff] at hcell
  rcases hcell with hget | ⟨_, hcolumn⟩
  · exact h name cell hget
  · rcases Option.bind_eq_some_iff.mp hcolumn with ⟨column, _, hget⟩
    exact h column cell hget

end Row

variable {P : Cell → Prop}

theorem Cell.IsOfTexts.getD (hP : IsOfTexts P) {cell : Option Cell}
    (h : ∀ found, cell = some found → P found) : P (cell.getD .null) := by
  cases cell with
  | none =>
      exact hP.null
  | some found =>
      exact h found rfl

/-!
## Joined rows
-/

namespace Joining

variable {table : String} {main : Row} {partner : Option Row} {fields : List Field}

theorem forall_nullRow (hP : Cell.IsOfTexts P) (t : Table) : t.nullRow.Forall P := by
  apply Row.forall_ofList
  simp only [List.forall_mem_map]
  exact fun _ _ => hP.null

theorem forall_cellFor (hP : Cell.IsOfTexts P) (hmain : main.Forall P)
    (hpartner : ∀ row, partner = some row → row.Forall P) (name : String) :
    P (cellFor table main partner name) := by
  apply hP.getD
  intro cell hcell
  rcases Option.bind_eq_some_iff.mp hcell with ⟨row, hrow, hlookup⟩
  split at hrow
  · cases hrow
    exact hmain.lookup? hlookup
  · exact (hpartner row hrow).lookup? hlookup

theorem forall_pairRow (hP : Cell.IsOfTexts P) (kind : JoinKind) (hmain : main.Forall P)
    (hpartner : ∀ row, partner = some row → row.Forall P) :
    (pairRow kind table fields (main, partner)).Forall P := by
  have hrequested : ∀ entry ∈ requested table fields main partner, P entry.2 := by
    rw [requested, List.forall_mem_map]
    exact fun name _ => forall_cellFor hP hmain hpartner name
  have hqualified : ∀ entry ∈ qualified table main, P entry.2 := by
    rw [qualified, List.forall_mem_map]
    exact hmain.entries
  cases kind with
  | inner =>
      exact Row.forall_ofList hrequested
  | left =>
      exact (Row.forall_ofList hqualified).insertAll hrequested
  | right =>
      exact (Row.forall_ofList hqualified).insertAll hrequested

/-- A join puts rows of its tables together.  Where one is missing, nulls stand for it. -/
theorem mem_of_mem_pairs {kind : JoinKind} {t : Table} {joined : List Row} {link : Link}
    {pair : Row × Option Row} (h : pair ∈ pairs kind t joined link) :
    (pair.1 ∈ t.rows ∨ pair.1 = t.nullRow) ∧ ∀ row, pair.2 = some row → row ∈ joined := by
  cases kind with
  | inner =>
      rcases List.mem_map.mp h with ⟨_, hpair, rfl⟩
      rcases List.mem_flatMap.mp hpair with ⟨r, hr, hpair⟩
      rcases List.mem_map.mp hpair with ⟨s, hs, rfl⟩
      refine ⟨Or.inl hr, ?_⟩
      intro row hrow
      cases hrow
      exact (List.mem_filter.mp hs).1
  | left =>
      rcases List.mem_flatMap.mp h with ⟨r, hr, hpair⟩
      split at hpair
      · rw [List.mem_singleton] at hpair
        subst hpair
        refine ⟨Or.inl hr, ?_⟩
        intro row hrow
        cases hrow
      · rcases List.mem_map.mp hpair with ⟨s, hs, rfl⟩
        refine ⟨Or.inl hr, ?_⟩
        intro row hrow
        cases hrow
        exact (List.mem_filter.mp hs).1
  | right =>
      rcases List.mem_map.mp h with ⟨s, hs, rfl⟩
      constructor
      · cases hfind : t.rows.find? fun candidate => link.matches? candidate s with
        | none =>
            exact Or.inr rfl
        | some r =>
            exact Or.inl (List.mem_of_find?_eq_some hfind)
      · intro row hrow
        cases hrow
        exact hs

theorem forall_joinRows (hP : Cell.IsOfTexts P) (kind : JoinKind) {t : Table}
    (hmain : ∀ row ∈ t.rows, row.Forall P) {joined : List Row}
    (hjoined : ∀ row ∈ joined, row.Forall P) (link : Link) :
    ∀ row ∈ joinRows kind t joined link fields, row.Forall P := by
  rw [joinRows_eq_map, List.forall_mem_map]
  intro pair hpair
  rcases mem_of_mem_pairs hpair with ⟨hr, hpartner⟩
  apply forall_pairRow hP
  · rcases hr with hr | hnull
    · exact hmain pair.1 hr
    · rw [hnull]
      exact forall_nullRow hP t
  · intro s hs
    exact hjoined s (hpartner s hs)

end Joining

/-!
## Projected and grouped rows
-/

theorem forall_projectRow (hP : Cell.IsOfTexts P) {row : Row} (h : row.Forall P)
    (labels : List String) : (projectRow labels row).Forall P := by
  apply Row.forall_ofList
  rw [List.forall_mem_map]
  exact fun label _ => hP.getD fun cell hcell => h label cell hcell

namespace Grouping

variable {rows : List Row}

theorem forall_gives (hP : Cell.IsOfTexts P) (h : ∀ row ∈ rows, row.Forall P) {field : Field}
    {cell : Cell} (hgives : Gives rows field cell) : P cell := by
  have hbound : ∀ bound, P (cellOf bound) := by
    intro bound
    cases bound with
    | none => exact hP.null
    | some x => exact hP.number x
  cases hgives with
  | column name =>
      apply hP.getD
      intro cell hcell
      rcases Option.bind_eq_some_iff.mp hcell with ⟨row, hrow, hget⟩
      exact h row (List.mem_of_mem_head? hrow) name cell hget
  | leastOfRows =>
      exact hP.null
  | greatestOfRows =>
      exact hP.null
  | least _ =>
      exact hbound _
  | greatest _ =>
      exact hbound _
  | _ =>
      exact hP.number _

theorem forall_summary (hP : Cell.IsOfTexts P) (h : ∀ row ∈ rows, row.Forall P)
    (fields : List Field) : (summary rows fields).Forall P := by
  rw [summary, Accumulator.finish_gather]
  apply Row.forall_ofList
  rw [List.forall_mem_map]
  exact fun field _ => forall_gives hP h (gives_cellIn rows field)

end Grouping

/-!
## Outcomes
-/

namespace Query

variable {q : Query} {source : Source} {rows : List Row}

theorem forall_loadRows (hP : Cell.IsOfTexts P)
    (h : ∀ name ∈ q.tables, ∀ t, source name = .ok t → ∀ row ∈ t.rows, row.Forall P)
    (hload : q.loadRows source = .ok rows) : ∀ row ∈ rows, row.Forall P := by
  rcases bind_eq_ok_iff.mp hload with ⟨t, ht, hload⟩
  have hmain := h q.table List.mem_cons_self t ht
  cases hjoin : q.join with
  | none =>
      rw [hjoin] at hload
      cases hload
      exact hmain
  | some join =>
      rw [hjoin] at hload
      rcases bind_eq_ok_iff.mp hload with ⟨joined, hloaded, hrows⟩
      cases hrows
      have hmem : join.table ∈ q.tables := by
        simp [tables, hjoin]
      exact Joining.forall_joinRows hP join.kind hmain (h _ hmem joined hloaded) _

theorem forall_shape (hP : Cell.IsOfTexts P) (h : ∀ row ∈ rows, row.Forall P) :
    ∀ row ∈ q.shape rows, row.Forall P := by
  unfold shape
  split
  · rw [List.forall_mem_singleton]
    exact Grouping.forall_summary hP h q.fields
  · split
    · rw [Grouping.groupRows_eq_map, List.forall_mem_map]
      intro key _
      apply Grouping.forall_summary hP
      intro row hrow
      exact h row (List.mem_filter.mp hrow).1
    · rw [projectRows, List.forall_mem_map]
      exact fun row hrow => forall_projectRow hP (h row hrow) q.labels

end Query

/-- What holds of the texts of the tables that a query names holds of those of its outcome. -/
theorem forall_of_answer (hP : Cell.IsOfTexts P) {source : Source} {text : String} {q : Query}
    {r : ResultTable} (hq : parseQuery text = .ok q)
    (h : ∀ name ∈ q.tables, ∀ t, source name = .ok t → ∀ row ∈ t.rows, row.Forall P)
    (hr : answer source text = .ok r) : ∀ row ∈ r.rows, row.Forall P := by
  rcases answer_eq_ok_iff.mp hr with ⟨q', rows, hq', hload, rfl⟩
  cases hq.symm.trans hq'
  apply Query.forall_shape hP
  intro row hrow
  exact Query.forall_loadRows hP h hload row (List.mem_filter.mp hrow).1

end TableQuery
