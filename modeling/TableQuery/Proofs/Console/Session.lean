import TableQuery.Proofs.Console.Lines
import TableQuery.Proofs.Execution.Loading

/-!
# Sessions

A session answers its lines in order, each for itself, up to the first one that leaves it.
What a line is answered depends on its text and on the tables that it names, so no line has
an effect on what is written for another one.
-/

namespace TableQuery
namespace Console

/-!
## Answers to commands
-/

/-- What is written for a command, over the tables of the source. -/
inductive Answers (source : Source) : Command → Written → Prop
  | unreadable : Answers source .unreadable (.onOutput "Failed to read input\n")
  | blank : Answers source .blank .nothing
  | exit : Answers source .exit .nothing
  | help : Answers source .help (.onOutput helpText)
  | outlined {query : String} {q : Query} (h : Query.parse query = .ok q) :
      Answers source (.outline query) (.onOutput ("Parsed as: " ++ q.outline ++ "\n"))
  | misread {query : String} {fault : QueryFault} (h : Query.parse query = .error fault) :
      Answers source (.outline query) (.onErrors ("Parse error: " ++ fault.message ++ "\n"))
  | shown {query : String} {result : ResultTable} (h : answer source query = .ok result) :
      Answers source (.run query) (.onOutput (result.text ++ "\n"))
  | refused {query : String} {e : QueryError} (h : answer source query = .error e) :
      Answers source (.run query) (.onOutput (e.report ++ "\n"))

/-- What is written for a line before the next prompt. -/
def response (source : Source) (line : List UInt8) : Written :=
  match respond (overTables source) (commandOf line) with
  | .answered written => written
  | .ended _ => .nothing

section Responses

variable {source source' : Source} {line : List UInt8} {command : Command} {written : Written}

theorem exists_answers (source : Source) (command : Command) :
    ∃ written, Answers source command written := by
  cases command with
  | unreadable =>
      exact ⟨_, .unreadable⟩
  | blank =>
      exact ⟨_, .blank⟩
  | exit =>
      exact ⟨_, .exit⟩
  | help =>
      exact ⟨_, .help⟩
  | outline query =>
      cases hparse : Query.parse query with
      | ok q =>
          exact ⟨_, .outlined hparse⟩
      | error fault =>
          exact ⟨_, .misread hparse⟩
  | run query =>
      cases hanswer : answer source query with
      | ok result =>
          exact ⟨_, .shown hanswer⟩
      | error e =>
          exact ⟨_, .refused hanswer⟩

theorem Answers.response_eq (hcommand : commandOf line = command)
    (h : Answers source command written) : response source line = written := by
  rw [response, hcommand]
  cases h with
  | unreadable =>
      rfl
  | blank =>
      rfl
  | exit =>
      rfl
  | help =>
      rfl
  | @outlined query q h =>
      show showOutline query = _
      rw [showOutline, parseQuery, h]
      rfl
  | @misread query fault h =>
      show showOutline query = _
      rw [showOutline, parseQuery, h]
      rfl
  | @shown query result h =>
      show showAnswer (overTables source) query = _
      rw [showAnswer, overTables, h]
      rfl
  | @refused query e h =>
      show showAnswer (overTables source) query = _
      rw [showAnswer, overTables, h]
      rfl

theorem response_eq_iff :
    response source line = written ↔
      ∃ command, Means line command ∧ Answers source command written := by
  constructor
  · rintro rfl
    rcases exists_answers source (commandOf line) with ⟨written, hanswers⟩
    rw [hanswers.response_eq rfl]
    exact ⟨commandOf line, means_commandOf line, hanswers⟩
  · rintro ⟨command, hmeans, hanswers⟩
    exact hanswers.response_eq hmeans.commandOf_eq

theorem respond_of_not_leaves (h : ¬Leaves line) :
    respond (overTables source) (commandOf line) = .answered (response source line) := by
  rw [← commandOf_eq_exit_iff] at h
  rw [response]
  generalize commandOf line = command at *
  cases command with
  | exit =>
      exact absurd rfl h
  | _ =>
      rfl

theorem response_of_leaves (h : Leaves line) : response source line = .nothing :=
  Answers.exit.response_eq (commandOf_eq_exit_iff.mpr h)

/-- Nothing but the tables that a line names has an effect on its response. -/
theorem response_congr
    (h : ∀ table ∈ tablesOf (commandOf line), source table = source' table) :
    response source line = response source' line := by
  rw [response, response]
  generalize commandOf line = command at *
  cases command with
  | run query =>
      have hsame : answer source query = answer source' query := by
        cases hparse : Query.parse query with
        | error fault =>
            rw [answer_of_parse_error hparse, answer_of_parse_error hparse]
        | ok q =>
            refine answer_congr hparse fun table htable => h table ?_
            simpa only [tablesOf, parseQuery, hparse, Except.mapError] using htable
      simp only [respond, showAnswer, overTables, hsame]
  | _ =>
      rfl

/-- The text of a line that asks for an outline is at fault exactly if errors are written. -/
theorem errors_response_of_outline {query : String} (h : Means line (.outline query)) :
    (response source line).errors ≠ "" ↔ ∃ fault, Query.parse query = .error fault := by
  cases hparse : Query.parse query with
  | ok q =>
      rw [(Answers.outlined hparse).response_eq h.commandOf_eq]
      simp [Written.onOutput]
  | error fault =>
      rw [(Answers.misread hparse).response_eq h.commandOf_eq]
      simp [Written.onErrors]

end Responses

/-!
## Lines one after the other
-/

/-- What is written for some lines: a prompt and a response for each of them, in order. -/
def exchange (response : List UInt8 → Written) (lines : List (List UInt8)) : Written :=
  lines.foldr (fun line written => .onOutput prompt ++ response line ++ written) .nothing

theorem exchange_cons (response : List UInt8 → Written) (line : List UInt8)
    (lines : List (List UInt8)) :
    exchange response (line :: lines) =
      .onOutput prompt ++ response line ++ exchange response lines :=
  rfl

theorem exchange_append (response : List UInt8 → Written) (before after : List (List UInt8)) :
    exchange response (before ++ after) = exchange response before ++ exchange response after := by
  induction before with
  | nil =>
      exact (Written.nothing_append _).symm
  | cons line before ih =>
      rw [List.cons_append, exchange_cons, ih, exchange_cons,
        Written.append_assoc _ _ (exchange response after)]

section Replies

variable {source : Source} {input : List UInt8} {line : List UInt8}
  {lines before after : List (List UInt8)}

theorem replies_nil (backend : Backend) :
    replies backend [] = { written := .onOutput prompt, code := 0 } := by
  rw [replies]
  rfl

theorem replies_of_leaves (source : Source) (h : linesOf input = line :: lines)
    (hleaves : Leaves line) :
    replies (overTables source) input = { written := .onOutput prompt, code := 0 } := by
  rcases exists_takeLine? h with ⟨raw, rest, htake, hends, _⟩
  have hexit := commandOf_eq_exit_iff.mpr hleaves
  rw [replies, htake]
  simp only [hends.commandOf_eq, hexit, respond]

theorem replies_of_not_leaves (source : Source) (h : linesOf input = line :: lines)
    (hstays : ¬Leaves line) :
    ∃ rest, linesOf rest = lines ∧
      replies (overTables source) input =
        (replies (overTables source) rest).after (.onOutput prompt ++ response source line) := by
  rcases exists_takeLine? h with ⟨raw, rest, htake, hends, hrest⟩
  refine ⟨rest, hrest, ?_⟩
  rw [replies, htake]
  simp only [hends.commandOf_eq, respond_of_not_leaves hstays]

theorem exchange_of_leaves (h : Leaves line) :
    exchange (response source) [line] = .onOutput prompt := by
  rw [exchange_cons, response_of_leaves h, Written.append_nothing]
  exact Written.append_nothing _

/-- The lines are answered up to the first one that leaves, or else all of them. -/
theorem replies_eq (source : Source) (h : linesOf input = before ++ after)
    (hbefore : ∀ line ∈ before, ¬Leaves line) (hafter : ∀ line ∈ after.head?, Leaves line) :
    replies (overTables source) input =
      { written := exchange (response source) before ++ .onOutput prompt, code := 0 } := by
  induction before generalizing input with
  | nil =>
      cases after with
      | nil =>
          rw [eq_nil_of_linesOf h, replies_nil]
          rfl
      | cons line after =>
          rw [replies_of_leaves source h (hafter line rfl)]
          rfl
  | cons line before ih =>
      rcases List.forall_mem_cons.mp hbefore with ⟨hstays, hbefore⟩
      rcases replies_of_not_leaves source h hstays with ⟨rest, hrest, hreplies⟩
      rw [hreplies, ih hrest hbefore, Session.after, exchange_cons,
        Written.append_assoc _ _ (.onOutput prompt)]

/-- Each line has a response of its own, which is told by what the line means and by the
tables that it names.  A session writes a prompt and a response for each line up to the first
one that leaves it, and if there is none for all of them, and one more prompt.  It ends with
the code zero.  A line that asks for an outline names no table, and its response is an error
exactly if its query cannot be read. -/
theorem run_lines :
    ∃ response : Source → List UInt8 → Written, ∀ source : Source,
      (∀ line written, response source line = written ↔
        ∃ command, Means line command ∧ Answers source command written) ∧
      (∀ line source', (∀ table ∈ tablesOf (commandOf line), source table = source' table) →
        response source line = response source' line) ∧
      (∀ line query, Means line (.outline query) →
        tablesOf (commandOf line) = [] ∧
          ((response source line).errors ≠ "" ↔ ∃ fault, Query.parse query = .error fault)) ∧
      (∀ input before line after, linesOf input = before ++ line :: after →
        (∀ earlier ∈ before, ¬Leaves earlier) → Leaves line →
          run (overTables source) input =
            { written := .onOutput banner ++ exchange (response source) (before ++ [line])
              code := 0 }) ∧
      ∀ input, (∀ line ∈ linesOf input, ¬Leaves line) →
        run (overTables source) input =
          { written := .onOutput banner ++
              (exchange (response source) (linesOf input) ++ .onOutput prompt)
            code := 0 } := by
  refine ⟨response, fun source => ⟨?_, ?_, ?_, ?_, ?_⟩⟩
  · intro line written
    exact response_eq_iff
  · intro line source' hsame
    exact response_congr hsame
  · intro line query hmeans
    refine ⟨?_, errors_response_of_outline hmeans⟩
    rw [hmeans.commandOf_eq]
    rfl
  · intro input before line after hlines hbefore hleaves
    have hreplies := replies_eq source hlines hbefore fun first hfirst => by
      cases hfirst
      exact hleaves
    rw [run, hreplies, exchange_append, exchange_of_leaves hleaves]
    rfl
  · intro input hstays
    rw [run, replies_eq source (List.append_nil _).symm hstays (by simp)]
    rfl

/-- Neither bytes that are no text nor what stands behind the end has an effect. -/
theorem run_lines_quit :
    let leaving := Text.Utf8.encode " Quit\r".toList
    let input := [0xFF, 0x0A] ++ leaving ++ [0x0A] ++ Text.Utf8.encode "help".toList
    linesOf input = [[0xFF]] ++ leaving :: [Text.Utf8.encode "help".toList] ∧
      (∀ earlier ∈ [[(0xFF : UInt8)]], ¬Leaves earlier) ∧ Leaves leaving ∧
      ∀ source, run (overTables source) input =
        { written := .onOutput (banner ++ prompt ++ "Failed to read input\n" ++ prompt)
          code := 0 } := by
  intro leaving input
  have hlines : linesOf input = [[0xFF]] ++ leaving :: [Text.Utf8.encode "help".toList] := by
    decide
  have hunreadable : Means [0xFF] .unreadable := means_iff.mpr (by decide +kernel)
  have hstays : ∀ earlier ∈ [[(0xFF : UInt8)]], ¬Leaves earlier := by
    rw [List.forall_mem_singleton, ← commandOf_eq_exit_iff, hunreadable.commandOf_eq]
    exact nofun
  have hleaves : Leaves leaving := commandOf_eq_exit_iff.mp (by decide +kernel)
  refine ⟨hlines, hstays, hleaves, fun source => ?_⟩
  rcases run_lines with ⟨response, hlaws⟩
  rcases hlaws source with ⟨hresponse, _, _, hrun, _⟩
  rw [hrun input _ _ _ hlines hstays hleaves, List.singleton_append, exchange_cons, exchange_cons,
    (hresponse _ _).mpr ⟨_, hunreadable, .unreadable⟩,
    (hresponse _ _).mpr ⟨_, .exit hleaves, .exit⟩]
  rfl

end Replies

end Console
end TableQuery
