import TableQuery.Proofs.Execution.Shape

/-!
# Loading the tables of a query

A query fails where its text cannot be read, or else where the first of its tables cannot
be loaded.  Nothing behind the loading fails, and nothing but the tables that are named is
asked of the source.
-/

namespace TableQuery

variable {source source' : Source} {q : Query} {e : QueryError}

/-- The table is the first of the names that cannot be loaded. -/
inductive FailsAt (source : Source) : List String → String → QueryError → Prop
  | here {name : String} {names : List String} {e : QueryError}
      (hname : source name = .error e) : FailsAt source (name :: names) name e
  | later {first name : String} {names : List String} {t : Table} {e : QueryError}
      (hfirst : source first = .ok t) (hrest : FailsAt source names name e) :
      FailsAt source (first :: names) name e

/-- All of the tables can be loaded. -/
def Loads (source : Source) (names : List String) : Prop :=
  ∀ name ∈ names, ∃ t, source name = .ok t

/-!
## Some tables one after the other
-/

theorem FailsAt.load_eq {names : List String} {name : String} (h : FailsAt source names name e) :
    source name = .error e := by
  induction h with
  | here hname =>
      exact hname
  | later _ _ ih =>
      exact ih

theorem loads_or_failsAt (source : Source) (names : List String) :
    Loads source names ∨ ∃ name e, FailsAt source names name e := by
  induction names with
  | nil =>
      left
      intro name hname
      cases hname
  | cons first names ih =>
      cases hfirst : source first with
      | error e =>
          exact Or.inr ⟨first, e, .here hfirst⟩
      | ok t =>
          rcases ih with hloads | ⟨name, e, hfails⟩
          · left
            exact List.forall_mem_cons.mpr ⟨⟨t, hfirst⟩, hloads⟩
          · exact Or.inr ⟨name, e, .later hfirst hfails⟩

/-!
## The tables of a query
-/

namespace Query

theorem exists_loadRows_of_loads (h : Loads source q.tables) :
    ∃ rows, q.loadRows source = .ok rows := by
  rcases List.forall_mem_cons.mp h with ⟨⟨main, hmain⟩, hjoined⟩
  unfold loadRows
  rw [hmain, ok_bind]
  cases hjoin : q.join with
  | none =>
      exact ⟨main.rows, rfl⟩
  | some join =>
      rw [hjoin] at hjoined
      rcases hjoined join.table List.mem_cons_self with ⟨joined, hload⟩
      simp only [hload]
      exact ⟨_, rfl⟩

theorem loadRows_of_failsAt {name : String} (h : FailsAt source q.tables name e) :
    q.loadRows source = .error e := by
  unfold loadRows
  rw [tables] at h
  cases h with
  | here hmain =>
      rw [hmain, error_bind]
  | @later _ _ _ main _ hmain hrest =>
      rw [hmain, ok_bind]
      cases hjoin : q.join with
      | none =>
          rw [hjoin] at hrest
          cases hrest
      | some join =>
          rw [hjoin] at hrest
          cases hrest with
          | here hjoined =>
              simp only [hjoined]
              rfl
          | later _ hnone =>
              cases hnone

theorem loadRows_congr (h : ∀ name ∈ q.tables, source name = source' name) :
    q.loadRows source = q.loadRows source' := by
  rcases List.forall_mem_cons.mp h with ⟨hmain, hjoined⟩
  unfold loadRows
  rw [hmain]
  cases hjoin : q.join with
  | none =>
      rfl
  | some join =>
      rw [hjoin] at hjoined
      simp only [hjoined join.table List.mem_cons_self]

theorem run_congr (h : ∀ name ∈ q.tables, source name = source' name) :
    q.run source = q.run source' := by
  rw [run, run, loadRows_congr h]

end Query

/-!
## Outcomes
-/

variable {text : String}

theorem answer_of_parse_error {fault : QueryFault} (h : Query.parse text = .error fault) :
    answer source text = .error (.query fault) := by
  rw [answer, parseQuery, h]
  rfl

theorem answer_of_parse_ok (h : Query.parse text = .ok q) :
    answer source text =
      (q.run source).map fun rows => { columns := q.labels, rows } := by
  have hquery : parseQuery text = .ok q := parseQuery_eq_ok_iff.mpr h
  rw [answer, hquery, ok_bind]
  cases q.run source with
  | error e =>
      rfl
  | ok rows =>
      rfl

theorem answer_of_failsAt {name : String} (h : Query.parse text = .ok q)
    (hfails : FailsAt source q.tables name e) : answer source text = .error e := by
  rw [answer_of_parse_ok h, Query.run, Query.loadRows_of_failsAt hfails]
  rfl

theorem exists_answer_of_loads (h : Query.parse text = .ok q)
    (hloads : Loads source q.tables) : ∃ result, answer source text = .ok result := by
  rcases Query.exists_loadRows_of_loads hloads with ⟨rows, hrows⟩
  rw [answer_of_parse_ok h, Query.run, hrows]
  exact ⟨_, rfl⟩

/-- A query text fails with an error: it cannot be read, or one of the tables of its query
cannot be loaded, and those before that one can. -/
inductive Fails (source : Source) (text : String) : QueryError → Prop
  | unread {fault : QueryFault} (h : Query.parse text = .error fault) :
      Fails source text (.query fault)
  | unloaded {q : Query} {name : String} {e : QueryError} (h : Query.parse text = .ok q)
      (hfails : FailsAt source q.tables name e) : Fails source text e

theorem Fails.answer_eq (h : Fails source text e) : answer source text = .error e := by
  cases h with
  | unread h =>
      exact answer_of_parse_error h
  | unloaded h hfails =>
      exact answer_of_failsAt h hfails

theorem fails_of_answer_eq (h : answer source text = .error e) : Fails source text e := by
  cases hparse : Query.parse text with
  | error fault =>
      rw [answer_of_parse_error hparse] at h
      cases h
      exact .unread hparse
  | ok q =>
      rcases loads_or_failsAt source q.tables with hloads | ⟨name, e', hfails⟩
      · rcases exists_answer_of_loads hparse hloads with ⟨result, hresult⟩
        rw [hresult] at h
        cases h
      · rw [answer_of_failsAt hparse hfails] at h
        cases h
        exact .unloaded hparse hfails

theorem answer_congr (h : Query.parse text = .ok q)
    (hsame : ∀ name ∈ q.tables, source name = source' name) :
    answer source text = answer source' text := by
  rw [answer_of_parse_ok h, answer_of_parse_ok h, Query.run_congr hsame]

end TableQuery
