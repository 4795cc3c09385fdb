import TableQuery.Execution
import TableQuery.Proofs.Joining.Sides
import TableQuery.Proofs.Query.Scanning
import TableQuery.Proofs.Row.Filling

/-!
# The shape of an outcome

Rows are joined, chosen, projected, grouped or summed up, and each of these builds rows in
its own way.  The rows of an outcome nevertheless have the labels of the requested fields
as their names, all of them and no others.
-/

namespace TableQuery

/-!
## Rows of each stage
-/

theorem keys_projectRow (labels : List String) (row : Row) :
    (projectRow labels row).keys = labels.eraseDups := by
  rw [projectRow, Row.keys_ofList, List.map_map]
  exact congrArg List.eraseDups (List.map_id labels)

namespace Grouping

theorem keys_finish (fields : List Field) (a : Accumulator) :
    (a.finish fields).keys = (fields.map Field.label).eraseDups := by
  rw [Accumulator.finish, Row.keys_ofList]
  apply congrArg List.eraseDups
  apply List.ext_getElem
  · simp
  · intro i h h'
    simp

theorem exists_finish_of_mem_groupRows {groupBy : Option (List String)} {isSummary : Bool}
    {fields : List Field} {rows : List Row} {row : Row}
    (h : row ∈ groupRows groupBy isSummary fields rows) :
    ∃ a : Accumulator, row = a.finish fields := by
  rw [groupRows, Array.toList_map, List.mem_map] at h
  rcases h with ⟨a, _, rfl⟩
  exact ⟨a, rfl⟩

end Grouping

/-!
## Outcomes
-/

namespace Query

theorem keys_of_mem_shape {q : Query} {rows : List Row} {row : Row} (h : row ∈ q.shape rows) :
    row.keys = q.labels.eraseDups := by
  unfold shape at h
  split at h
  · -- All rows are summed up in one.
    rw [List.mem_singleton] at h
    rw [h]
    exact Grouping.keys_finish q.fields _
  · split at h
    · rcases Grouping.exists_finish_of_mem_groupRows h with ⟨a, rfl⟩
      exact Grouping.keys_finish q.fields a
    · rcases List.mem_map.mp h with ⟨given, _, rfl⟩
      exact keys_projectRow q.labels given

theorem shape_of_isSummary {q : Query} (h : q.isSummary = true) (rows : List Row) :
    q.shape rows = [Grouping.summary rows q.fields] := by
  rw [shape, if_pos h]

end Query

theorem parseQuery_eq_ok_iff {text : String} {q : Query} :
    parseQuery text = .ok q ↔ Query.parse text = .ok q := by
  rw [parseQuery]
  cases Query.parse text with
  | error fault =>
      constructor
      · intro h
        cases h
      · intro h
        cases h
  | ok read =>
      constructor
      · intro h
        cases h
        rfl
      · intro h
        cases h
        rfl

theorem answer_eq_ok_iff {source : Source} {text : String} {result : ResultTable} :
    answer source text = .ok result ↔
      ∃ q rows, parseQuery text = .ok q ∧ q.loadRows source = .ok rows ∧
        result = { columns := q.labels, rows := q.shape (chooseRows q.conditions rows) } := by
  rw [answer, bind_eq_ok_iff]
  constructor
  · rintro ⟨q, hq, h⟩
    rcases bind_eq_ok_iff.mp h with ⟨shaped, hrun, hresult⟩
    rcases bind_eq_ok_iff.mp hrun with ⟨rows, hload, hshaped⟩
    cases hshaped
    cases hresult
    exact ⟨q, rows, hq, hload, rfl⟩
  · rintro ⟨q, rows, hq, hload, rfl⟩
    refine ⟨q, hq, ?_⟩
    rw [Query.run, hload]
    rfl

/-- An outcome has the labels of the requested fields as columns, and every row has each
of them once as a name, in the order in which they were first requested, and no other
name.  Aggregates without groups give one row, whatever the rows are. -/
theorem answer_shape (source : Source) (text : String) (result : ResultTable)
    (h : answer source text = .ok result) :
    ∃ q, parseQuery text = .ok q ∧
      result.columns = q.fields.map Field.label ∧
      (∀ row ∈ result.rows, row.keys = (q.fields.map Field.label).eraseDups ∧
        ∀ f ∈ q.fields, ∃ cell, row.get? f.label = some cell) ∧
      (q.isSummary = true → ∃ row, result.rows = [row]) := by
  rcases answer_eq_ok_iff.mp h with ⟨q, rows, hq, _, rfl⟩
  refine ⟨q, hq, rfl, ?_, ?_⟩
  · intro row hrow
    have hkeys : row.keys = q.labels.eraseDups := Query.keys_of_mem_shape hrow
    constructor
    · exact hkeys
    · intro f hf
      apply Row.exists_get?_of_mem_keys
      rw [hkeys, List.mem_eraseDups]
      exact List.mem_map_of_mem hf
  · intro hsummary
    exact ⟨_, Query.shape_of_isSummary hsummary _⟩

/-- A label that is requested twice, written in two ways, over no rows at all. -/
theorem answer_shape_repeated :
    let text := "SELECT count(*), name, COUNT( * ) FROM staff WHERE name = 'Dan'"
    ∃ result, answer Office.source text = .ok result ∧
      ∃ q, parseQuery text = .ok q ∧
        result.columns = q.fields.map Field.label ∧
        (∀ row ∈ result.rows, row.keys = (q.fields.map Field.label).eraseDups ∧
          ∀ f ∈ q.fields, ∃ cell, row.get? f.label = some cell) ∧
        (q.isSummary = true → ∃ row, result.rows = [row]) := by
  intro text
  have hok : (answer Office.source text).isOk = true := by decide +kernel
  cases h : answer Office.source text with
  | error e =>
      rw [h] at hok
      cases hok
  | ok result =>
      exact ⟨result, rfl, answer_shape Office.source text result h⟩

end TableQuery
