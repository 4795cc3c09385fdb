import TableQuery.Proofs.Directory.Places
import TableQuery.Proofs.Execution.Loading
import TableQuery.Proofs.Service.Posted

/-!
# Outcomes of posted queries

The status of the answer to a posted query tells where the query has ended: at its text, at
a table without a file, at a table that cannot be read, or with its result.  Only a request
that is too long to be read is refused before that.
-/

namespace TableQuery

/-!
## Lengths of requests
-/

theorem length_le_utf8ByteSize_ofList (cs : List Char) :
    cs.length ≤ (String.ofList cs).utf8ByteSize := by
  rw [String.utf8ByteSize_ofList]
  induction cs with
  | nil =>
      exact Nat.le_refl 0
  | cons c cs ih =>
      rw [String.utf8Len_cons, List.length_cons]
      exact Nat.add_le_add ih c.utf8Size_pos

namespace Json

theorem one_le_length_writeChar (c : Char) : 1 ≤ (writeChar c).length := by
  unfold writeChar
  repeat' split
  all_goals simp

theorem length_lt_writeRequest (sql : String) :
    sql.toList.length < (writeRequest sql).utf8ByteSize := by
  have hinside : sql.toList.length ≤ (sql.toList.flatMap writeChar).length := by
    induction sql.toList with
    | nil =>
        exact Nat.le_refl 0
    | cons c cs ih =>
        rw [List.flatMap_cons, List.length_append, List.length_cons, Nat.add_comm]
        exact Nat.add_le_add (one_le_length_writeChar c) ih
  have hbytes := length_le_utf8ByteSize_ofList
    ('\x7b' :: writeString requestName ++ ':' :: writeString sql ++ ['\x7d'])
  rw [← writeRequest] at hbytes
  simp only [writeString, List.length_append, List.length_cons] at hbytes
  omega

end Json

/-- A text of blanks is no query. -/
theorem Query.parse_of_blank {text : String} (h : ∀ c ∈ text.toList, Text.isBlank c = true) :
    parse text = .error .empty := by
  have htrim : Text.trim text.toList = [] := by
    rw [Text.trim, Text.trimLeft, List.dropWhile_eq_nil_iff.mpr h]
    rfl
  have hstrip : strip text.toList = [] := by
    rw [strip, htrim]
    rfl
  rw [parse, hstrip, Token.scan_nil]
  rfl

/-!
## Errors
-/

theorem status_tableOfFile {table : String} {outcome : FileOutcome} {e : QueryError}
    (h : tableOfFile table outcome = .error e) :
    Service.statusOf e = if outcome = .missing then 404 else 500 := by
  cases outcome with
  | missing =>
      cases h
      rfl
  | failed fault =>
      cases h
      rfl
  | found bytes =>
      rw [tableOfFile] at h
      cases hread : Csv.readTable table bytes with
      | error fault =>
          rw [hread] at h
          cases h
          rfl
      | ok t =>
          rw [hread] at h
          cases h

namespace Service

/-- The answer is an object with the message of the error, and with nothing else. -/
def Reports (response : Response) (e : QueryError) : Prop :=
  ∃ body, response.json = some body ∧
    Json.tokens body =
      [.openBrace, .string (some "error"), .colon, .string (some e.message), .closeBrace]

theorem tokens_errorText (e : QueryError) :
    Json.tokens (errorText e) =
      [.openBrace, .string (some "error"), .colon, .string (some e.message), .closeBrace] :=
  (Json.spells_writeObject
    (.cons (Json.spells_writeMember "error" (Json.spells_writeString e.message)) .nil)).tokens_eq

/-!
## Outcomes
-/

/-- The status that goes with the place where a query ends. -/
inductive HasOutcome (read : String → FileOutcome) (folder sql : String) : Nat → Prop
  | unread {fault : QueryFault} (h : Query.parse sql = .error fault) :
      HasOutcome read folder sql 400
  | missing {q : Query} {table : String} {e : QueryError} (h : Query.parse sql = .ok q)
      (hfails : FailsAt (Source.ofFiles read folder) q.tables table e)
      (hfile : read (Path.append folder (tablePath table)) = .missing) :
      HasOutcome read folder sql 404
  | failed {q : Query} {table : String} {e : QueryError} (h : Query.parse sql = .ok q)
      (hfails : FailsAt (Source.ofFiles read folder) q.tables table e)
      (hfile : read (Path.append folder (tablePath table)) ≠ .missing) :
      HasOutcome read folder sql 500
  | answered {q : Query} (h : Query.parse sql = .ok q)
      (hloads : Loads (Source.ofFiles read folder) q.tables) :
      HasOutcome read folder sql 200

section Answers

variable {source : Source} {read : String → FileOutcome} {folder sql : String} {status : Nat}
  {e : QueryError}

theorem status_of_fails (h : Fails source sql e) : (respondTo source sql).status = statusOf e := by
  rw [respondTo, h.answer_eq]

theorem reports_of_fails (h : Fails source sql e) : Reports (respondTo source sql) e := by
  rw [respondTo, h.answer_eq]
  exact ⟨errorText e, rfl, tokens_errorText e⟩

theorem HasOutcome.status_eq (h : HasOutcome read folder sql status) :
    (respondTo (Source.ofFiles read folder) sql).status = status := by
  cases h with
  | unread h =>
      exact status_of_fails (.unread h)
  | missing h hfails hfile =>
      rw [status_of_fails (.unloaded h hfails), status_tableOfFile hfails.load_eq, if_pos hfile]
  | failed h hfails hfile =>
      rw [status_of_fails (.unloaded h hfails), status_tableOfFile hfails.load_eq, if_neg hfile]
  | answered h hloads =>
      rcases exists_answer_of_loads h hloads with ⟨result, hresult⟩
      rw [respondTo, hresult]

theorem exists_hasOutcome (read : String → FileOutcome) (folder sql : String) :
    ∃ status, HasOutcome read folder sql status := by
  cases hparse : Query.parse sql with
  | error fault =>
      exact ⟨400, .unread hparse⟩
  | ok q =>
      rcases loads_or_failsAt (Source.ofFiles read folder) q.tables with
        hloads | ⟨table, e, hfails⟩
      · exact ⟨200, .answered hparse hloads⟩
      · by_cases hfile : read (Path.append folder (tablePath table)) = .missing
        · exact ⟨404, .missing hparse hfails hfile⟩
        · exact ⟨500, .failed hparse hfails hfile⟩

theorem status_respondTo_iff :
    (respondTo (Source.ofFiles read folder) sql).status = status ↔
      HasOutcome read folder sql status := by
  constructor
  · intro hstatus
    rcases exists_hasOutcome read folder sql with ⟨found, houtcome⟩
    rw [← hstatus, houtcome.status_eq]
    exact houtcome
  · exact HasOutcome.status_eq

theorem exists_reports (h : (respondTo source sql).status ≠ 200) :
    ∃ e, Fails source sql e ∧ Reports (respondTo source sql) e := by
  cases hanswer : answer source sql with
  | error e =>
      have hfails := fails_of_answer_eq hanswer
      exact ⟨e, hfails, reports_of_fails hfails⟩
  | ok result =>
      rw [respondTo, hanswer] at h
      exact absurd rfl h

end Answers

/-!
## Sessions
-/

/-- What happens to a service: its files change, or it is asked something. -/
inductive Event where
  | changed (read : String → FileOutcome)
  | asked (request : Request)

/-- The files after some events. -/
def filesAfter (read : String → FileOutcome) : List Event → String → FileOutcome
  | [] => read
  | .changed files :: events => filesAfter files events
  | .asked _ :: events => filesAfter read events

/-- The answers to what is asked, each with the files that there are at its time. -/
def answers (folder : String) (read : String → FileOutcome) : List Event → List Response
  | [] => []
  | .changed files :: events => answers folder files events
  | .asked request :: events =>
      respond (Source.ofFiles read folder) request :: answers folder read events

theorem answers_append (folder : String) (read : String → FileOutcome)
    (before after : List Event) :
    answers folder read (before ++ after) =
      answers folder read before ++ answers folder (filesAfter read before) after := by
  induction before generalizing read with
  | nil =>
      rfl
  | cons event before ih =>
      cases event with
      | changed files =>
          exact ih files
      | asked request =>
          exact congrArg _ (ih read)

/-!
## Posted queries
-/

/-- A posted query that is short enough to be read is answered with the status that goes with
the place where it ends, and without a result only with the message of its error.  It is
answered with the files of its time, and the answers behind it are those without it. -/
theorem posted_outcome (read : String → FileOutcome) (folder sql : String) :
    let response := respond (Source.ofFiles read folder) (posted sql)
    (maxBody < (Json.writeRequest sql).utf8ByteSize → response = bare 413) ∧
      ((Json.writeRequest sql).utf8ByteSize ≤ maxBody →
        (∀ status, response.status = status ↔ HasOutcome read folder sql status) ∧
          (response.status ≠ 200 →
            ∃ e, Fails (Source.ofFiles read folder) sql e ∧ Reports response e)) ∧
      ∀ before after,
        answers folder read (before ++ after) =
            answers folder read before ++ answers folder (filesAfter read before) after ∧
          answers folder read (before ++ .asked (posted sql) :: after) =
            answers folder read before ++
              respond (Source.ofFiles (filesAfter read before) folder) (posted sql) ::
                answers folder (filesAfter read before) after := by
  intro response
  have hresponse : response =
      if maxBody < (Json.writeRequest sql).utf8ByteSize then bare 413
      else respondTo (Source.ofFiles read folder) sql :=
    respond_posted _ sql
  refine ⟨?_, ?_, ?_⟩
  · intro hlong
    rw [hresponse, if_pos hlong]
  · intro hshort
    rw [hresponse, if_neg (Nat.not_lt.mpr hshort)]
    exact ⟨fun status => status_respondTo_iff, exists_reports⟩
  · intro before after
    exact ⟨answers_append folder read before after, answers_append folder read before _⟩

/-- Blanks as long as the greatest body are no query, yet they are not refused as such. -/
theorem respond_posted_blanks :
    Query.parse (String.ofList (List.replicate maxBody ' ')) = .error .empty ∧
      respond DataDirectory.empty.load
        (posted (String.ofList (List.replicate maxBody ' '))) = bare 413 := by
  have hlength := Json.length_lt_writeRequest (String.ofList (List.replicate maxBody ' '))
  rw [String.toList_ofList, List.length_replicate] at hlength
  constructor
  · apply Query.parse_of_blank
    intro c hc
    rw [String.toList_ofList] at hc
    rw [List.eq_of_mem_replicate hc]
    decide
  · rw [respond_posted, if_pos hlength]

end Service
end TableQuery
