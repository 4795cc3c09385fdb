import TableQuery.Proofs.Directory.Places
import TableQuery.Proofs.Execution.Loading
import TableQuery.Proofs.Query.Names

/-!
# Queries and the data directory

Any text of a token can be the name of a table, slashes and dots included, and the name
goes into the path of a file as it is.  So there are queries that read files outside the
data directory: exactly those with a table whose path is absolute or climbs out.  What
every other query answers is decided by the files in the directory.
-/

namespace TableQuery

/-!
## Names of tables
-/

namespace Query

theorem mem_tables_iff {q : Query} {name : String} :
    name ∈ q.tables ↔ (Place.main, name) ∈ q.names ∨ (Place.joined, name) ∈ q.names := by
  have hmain : (Place.main, name) ∈ q.names ↔ name = q.table := by
    simp [names, joinNames, conditionNames]
  have hjoined : (Place.joined, name) ∈ q.names ↔ ∃ join ∈ q.join, name = join.table := by
    simp [names, joinNames, conditionNames]
  rw [hmain, hjoined, tables, List.mem_cons]
  cases q.join with
  | none =>
      simp
  | some join =>
      simp

theorem exists_parse_iff_spelled (q : Query) :
    (∃ text, parse text = .ok q) ↔ ∃ ts, Spelled q ts ∧ ∀ t ∈ ts, t.WellFormed := by
  constructor
  · rintro ⟨text, h⟩
    rcases parse_eq_ok_iff.mp h with ⟨ts, hscan, htokens⟩
    exact ⟨ts, ofTokens_eq_ok_iff.mp htokens, (Token.cut_of_scan hscan).wellFormed⟩
  · rintro ⟨ts, hspelled, hts⟩
    have hscan := Token.scan_of_laid (Token.laid_spaced ts) hts
    refine ⟨String.ofList (Token.spaced ts ++ [';']), ?_⟩
    rw [parse_append_semicolon hscan, ofTokens_eq_ok_iff]
    exact hspelled

theorem named_names_of_parse {text : String} {q : Query} (h : parse text = .ok q) :
    Named q.names := by
  rcases (exists_parse_iff_spelled q).mp ⟨text, h⟩ with ⟨ts, hspelled, hts⟩
  exact ((exists_spelled_iff_named q).mp ⟨q.fields, ts, hspelled, hts⟩).2

/-- The query for a field of a table that is joined with one of a given name. -/
def joining (name : String) : Query :=
  { fields := [.column "a"], table := "a", conditions := [], groupBy := none
    join := some { kind := .inner, table := name, link := { left := "a", right := "a" } } }

/-- The names of tables that queries have are the texts of tokens, of any kind. -/
theorem exists_mem_tables_iff (name : String) :
    (∃ text q, parse text = .ok q ∧ name ∈ q.tables) ↔
      Token.IsTextOf (fun _ => true) name := by
  constructor
  · rintro ⟨text, q, hparse, hname⟩
    have hnamed := named_names_of_parse hparse
    rcases mem_tables_iff.mp hname with hmain | hjoined
    · rcases hnamed _ hmain with ⟨t, ht, _, htext⟩
      exact ⟨t, ht, rfl, htext⟩
    · exact hnamed _ hjoined
  · intro htext
    have hword : ∀ p : Token → Bool, p (.word "a") = true → Token.IsTextOf p "a" := by
      intro p hp
      exact ⟨.word "a", by decide, hp, rfl⟩
    have hnamed : Named (joining name).names := by
      simp only [Named, names, joining, Option.toList_some, List.flatMap_cons,
        List.flatMap_nil, joinNames, List.append_nil, Option.getD_none, List.map_nil,
        List.forall_mem_cons]
      exact ⟨hword _ (by decide), htext, hword _ rfl, hword _ rfl, by simp⟩
    rcases (exists_spelled_iff_named (joining name)).mpr ⟨by simp [joining], hnamed⟩ with
      ⟨fields, hspelled⟩
    rcases (exists_parse_iff_spelled _).mpr hspelled with ⟨text, hparse⟩
    exact ⟨text, _, hparse, mem_tables_iff.mpr (Or.inr (by simp [names, joining, joinNames]))⟩

end Query

/-!
## Answers and files
-/

/-- What a query text answers is decided by the files in the data directory, whichever that
is and whatever there is outside it. -/
def IsConfined (text : String) : Prop :=
  ∀ (working : List (List Char)) (folder : String) (read read' : String → FileOutcome),
    (∀ path, Path.IsInside (Path.place working folder) (Path.place working path) →
      read path = read' path) →
      answer (Source.ofFiles read folder) text = answer (Source.ofFiles read' folder) text

theorem isConfined_of_staysInside {text : String} {q : Query} (h : Query.parse text = .ok q)
    (hstays : ∀ name ∈ q.tables, Path.staysInside (tablePath name) = true) :
    IsConfined text := by
  intro working folder read read' hsame
  apply answer_congr h
  intro name hname
  have hinside := Path.holdsFile_of_staysInside (hstays name hname) working folder
  rw [Source.ofFiles, Source.ofFiles, hsame _ hinside]

theorem staysInside_of_isConfined {text : String} {q : Query} (h : Query.parse text = .ok q)
    (hconfined : IsConfined text) {name : String} (hname : name ∈ q.tables) :
    Path.staysInside (tablePath name) = true := by
  rw [← Path.forall_holdsFile_iff]
  intro working folder
  by_contra houtside
  -- Every file is there and empty, or only the one outside is missing.
  let outside := Path.append folder (tablePath name)
  let full := Source.ofFiles (fun _ => .found []) folder
  let lacking := Source.ofFiles (fun path => if path = outside then .missing else .found [])
    folder
  have hsame : answer full text = answer lacking text := by
    apply hconfined working folder
    intro path hpath
    have hne : path ≠ outside := by
      rintro rfl
      exact houtside hpath
    exact (if_neg hne).symm
  have hfull : Loads full q.tables := by
    intro table _
    exact ⟨_, tableOfFile_empty table⟩
  have hmissing : lacking name = .error (.noTable name) := by
    show tableOfFile name (if outside = outside then _ else _) = _
    rw [if_pos rfl]
    rfl
  rcases exists_answer_of_loads h hfull with ⟨result, hresult⟩
  rcases loads_or_failsAt lacking q.tables with hloads | ⟨first, e, hfails⟩
  · rcases hloads name hname with ⟨t, ht⟩
    rw [hmissing] at ht
    cases ht
  · rw [hresult, answer_of_failsAt h hfails] at hsame
    cases hsame

theorem isConfined_iff (text : String) :
    IsConfined text ↔
      ∀ q, Query.parse text = .ok q →
        ∀ name ∈ q.tables, Path.staysInside (tablePath name) = true := by
  constructor
  · intro hconfined q h name hname
    exact staysInside_of_isConfined h hconfined hname
  · intro hstays
    cases h : Query.parse text with
    | error fault =>
        intro working folder read read' _
        rw [answer_of_parse_error h, answer_of_parse_error h]
    | ok q =>
        exact isConfined_of_staysInside h (hstays q h)

/-- Of the names that tables of queries have, those lead out of some data directory whose
path is absolute or climbs out, and the answer to a query is decided by the files in the
directory exactly if none of its tables is among them. -/
theorem exists_outside_iff (name text : String) :
    ((∃ sql q, Query.parse sql = .ok q ∧ name ∈ q.tables ∧
        ∃ working folder, ¬Path.HoldsFile working folder name) ↔
      Token.IsTextOf (fun _ => true) name ∧ Path.staysInside (tablePath name) = false) ∧
    (IsConfined text ↔ ∀ q, Query.parse text = .ok q →
      ∀ table ∈ q.tables, Path.staysInside (tablePath table) = true) := by
  constructor
  · have hleaves : (∃ working folder, ¬Path.HoldsFile working folder name) ↔
        Path.staysInside (tablePath name) = false := by
      rw [← Bool.not_eq_true, ← Path.forall_holdsFile_iff]
      simp only [not_forall]
    rw [← Query.exists_mem_tables_iff, ← hleaves]
    constructor
    · rintro ⟨sql, q, hparse, hname, houtside⟩
      exact ⟨⟨sql, q, hparse, hname⟩, houtside⟩
    · rintro ⟨⟨sql, q, hparse, hname⟩, houtside⟩
      exact ⟨sql, q, hparse, hname, houtside⟩
  · exact isConfined_iff text

/-- A table that is named from the root of the file system, and one in the folder above the
data directory: neither is looked for in the directory, even where it holds such a file. -/
theorem answer_outside :
    let text := "SELECT v FROM /etc/t JOIN ../t ON k = k"
    let data := DataDirectory.empty.addFile "etc/t.csv" [0x76, 0x0A, 0x31, 0x0A]
    (∃ q, Query.parse text = .ok q ∧ q.tables = ["/etc/t", "../t"] ∧
      ∀ name ∈ q.tables, ¬Path.HoldsFile [] "/srv/data" name) ∧
      ¬IsConfined text ∧
      (answer data.load "SELECT v FROM etc/t").toOption.map ResultTable.text = some "v\n1" ∧
      (answer data.load "SELECT v FROM /etc/t").toOption = none := by
  intro text data
  let link : Link := { left := "k", right := "k" }
  let q : Query := ⟨[.column "v"], "/etc/t", [], some ⟨.inner, "../t", link⟩, none⟩
  have hparse : Query.parse text = .ok q := by decide +kernel
  refine ⟨⟨q, hparse, rfl, by decide +kernel⟩, ?_, by decide +kernel, ?_⟩
  · rw [isConfined_iff]
    intro hstays
    exact absurd (hstays q hparse "/etc/t" List.mem_cons_self) (by decide +kernel)
  · have hnone : (answer data.load "SELECT v FROM /etc/t").toOption.isNone = true := by
      decide +kernel
    exact Option.isNone_iff_eq_none.mp hnone

end TableQuery
