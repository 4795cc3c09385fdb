import TableQuery.Service
import TableQuery.Proofs.Execution.Shape
import TableQuery.Proofs.Json.Shown

/-!
# Answers to posted queries

A query that is posted is answered with its result as JSON.  What is read from the answer
is shown as the result itself is, as long as the request is not refused for its length and
no sum or mean has grown beyond the finite numbers.
-/

namespace TableQuery

/-!
## Requests
-/

namespace Json

theorem spells_writeRequest (sql : String) :
    Spells (writeObject [writeMember requestName (writeString sql)])
      [.openBrace, .string (some requestName), .colon, .string (some sql), .closeBrace] :=
  spells_writeObject (.cons (spells_writeMember requestName (spells_writeString sql)) .nil)

theorem readRequest_writeRequest (sql : String) :
    readRequest (writeRequest sql) = .ok sql := by
  have htokens := (spells_writeRequest sql).tokens_eq
  have hwritten : writeRequest sql =
      String.ofList (writeObject [writeMember requestName (writeString sql)]) := by
    rw [writeRequest, writeObject, separate, List.intercalate_singleton, writeMember,
      List.cons_append]
  rw [readRequest, hwritten, htokens]
  rfl

end Json

/-- The rows of an outcome have no cells that are not shown. -/
theorem showsAll_of_answer {source : Source} {sql : String} {r : ResultTable}
    (h : answer source sql = .ok r) : r.ShowsAll := by
  rcases answer_eq_ok_iff.mp h with ⟨q, rows, _, _, rfl⟩
  intro row hrow key hkey
  rw [Query.keys_of_mem_shape hrow, List.mem_eraseDups] at hkey
  exact hkey

namespace Service

/-- The request that posts a query. -/
def posted (sql : String) : Request :=
  { method := "POST", target := "/query", declaresJson := true, body := Json.writeRequest sql }

/-- The table that is shown of an answer, if a result can be read from it. -/
def shown? (response : Response) : Option String :=
  response.json.bind fun body => (Json.readResult body).toOption.map ResultTable.text

variable {source : Source} {sql : String} {r : ResultTable}

theorem respond_posted (source : Source) (sql : String) :
    respond source (posted sql) =
      if maxBody < (Json.writeRequest sql).utf8ByteSize then bare 413
      else respondTo source sql := by
  have hroute : routeOf? (pathOf (posted sql).target) = some .query := by
    show routeOf? (pathOf "/query") = some .query
    decide
  rw [respond, hroute]
  simp only [query, posted, Json.readRequest_writeRequest]
  rfl

theorem shown?_respondTo (h : answer source sql = .ok r) (hback : r.ReadsBack) :
    shown? (respondTo source sql) = some r.carried.text := by
  rw [respondTo, h]
  simp only [shown?, Option.bind_some, readResult_writeResult_carried hback]
  rfl

/-- The table that is shown of the answer is that of the result, exactly if the request is
short enough to be read and all numbers of the result are finite. -/
theorem posted_shown_iff (h : answer source sql = .ok r) (hback : r.ReadsBack) :
    shown? (respond source (posted sql)) = some r.text ↔
      (Json.writeRequest sql).utf8ByteSize ≤ maxBody ∧ r.IsFinite := by
  rw [respond_posted]
  by_cases hlong : maxBody < (Json.writeRequest sql).utf8ByteSize
  · rw [if_pos hlong]
    constructor
    · intro hshown
      cases hshown
    · intro hboth
      exact absurd hlong (Nat.not_lt.mpr hboth.1)
  · rw [if_neg hlong, shown?_respondTo h hback, Option.some.injEq, eq_comm,
      ResultTable.text_eq_text_carried_iff (showsAll_of_answer h)]
    constructor
    · intro hfinite
      exact ⟨Nat.not_lt.mp hlong, hfinite⟩
    · intro hboth
      exact hboth.2

theorem posted_shown_iff_mean :
    let sql := "SELECT AVG(team) FROM staff WHERE name != 'Cal'"
    ∃ r, answer Office.source sql = .ok r ∧ r.ReadsBack ∧
      (shown? (respond Office.source (posted sql)) = some r.text ↔
        (Json.writeRequest sql).utf8ByteSize ≤ maxBody ∧ r.IsFinite) := by
  intro sql
  have hall : (answer Office.source sql).toOption.any (fun r => decide r.ReadsBack) = true := by
    decide +kernel
  cases h : answer Office.source sql with
  | error e =>
      rw [h] at hall
      cases hall
  | ok r =>
      rw [h] at hall
      have hback : r.ReadsBack := of_decide_eq_true hall
      exact ⟨r, rfl, hback, posted_shown_iff h hback⟩

/-- Two numbers that are finite, as their sum is not. -/
def heavy : Table :=
  { name := "t", columns := ["a"],
    rows := [["1e308"], ["1e308"]].map (Table.rowOfTexts ["a"]) }

/-- A sum that is shown as infinite where it is computed, and as missing elsewhere. -/
theorem posted_shown_heavy :
    let sql := "SELECT SUM(a) FROM t"
    let source := (Store.empty.put heavy).load
    (answer source sql).toOption.map ResultTable.text = some "SUM(a)\ninf" ∧
      shown? (respond source (posted sql)) = some "SUM(a)\nNULL" := by
  decide +kernel

end Service
end TableQuery
