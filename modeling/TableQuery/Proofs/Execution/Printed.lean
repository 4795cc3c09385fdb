import TableQuery.Directory
import TableQuery.Proofs.Csv.Decoding
import TableQuery.Proofs.Execution.Cells
import TableQuery.Proofs.Execution.Columns
import TableQuery.Proofs.Table.Printing

/-!
# Printed outcomes

An outcome is printed as a table exactly if no label and no text in it has a tab or a line break.
Such a character comes from a quoted text of the query or from a text of one of its tables, so the
outcomes of all other queries and tables are printed as tables.
-/

namespace TableQuery

/-!
## Blanks of labels
-/

theorem Text.subset_of_stripEnd? {tail cs inside : List Char}
    (h : stripEnd? tail cs = some inside) : inside ⊆ cs := by
  unfold stripEnd? at h
  split at h
  · cases h
    exact List.take_subset _ cs
  · cases h

namespace Field

variable {c : Char}

theorem mem_of_mem_argument? {cs : List Char} {argument : Argument}
    (h : argument? cs = some argument) (hc : Text.isBlank c = true) (hmem : c ∈ argument.text) :
    c ∈ cs := by
  unfold argument? at h
  split at h
  · cases h
  · cases h
    have hstar : c ∉ ['*'] := Text.IsSolid.notMem (by decide) hc
    exact absurd hmem hstar
  · cases h
    rw [Argument.text, String.toList_ofList] at hmem
    exact Text.trim_subset cs hmem

theorem mem_of_mem_call? {cs : List Char} {field : Field} (h : call? cs = some field)
    (hc : Text.isBlank c = true) (hmem : c ∈ field.label.toList) : c ∈ cs := by
  simp only [call?, Option.bind_eq_bind, Option.bind_eq_some_iff] at h
  rcases h with ⟨⟨name, rest⟩, hcut, inside, hinside, f, _, argument, hargument, hfield⟩
  cases hfield
  have hname : Text.IsSolid f.name.toList := by
    cases f <;> decide
  have hopen : c ∉ ['('] := Text.IsSolid.notMem (by decide) hc
  have hclose : c ∉ [')'] := Text.IsSolid.notMem (by decide) hc
  rw [toList_label_aggregate, List.mem_append, List.mem_cons, List.mem_append] at hmem
  rcases hmem with hmem | hmem | hmem | hmem
  · exact absurd hmem (hname.notMem hc)
  · exact absurd (List.mem_singleton.mpr hmem) hopen
  · have hin := mem_of_mem_argument? hargument hc hmem
    have hrest : c ∈ rest := Text.subset_of_stripEnd? hinside hin
    rw [(Text.cut?_eq_some_iff.mp hcut).1]
    exact List.mem_append_right _ (List.mem_cons_of_mem _ hrest)
  · exact absurd hmem hclose

/-- The blanks of a label are blanks of the text that asks for its field. -/
theorem mem_of_mem_label_ofText {text : String} (hc : Text.isBlank c = true)
    (hmem : c ∈ (ofText text).label.toList) : c ∈ text.toList := by
  apply Text.trim_subset
  rw [ofText] at hmem
  cases hcall : call? (Text.trim text.toList) with
  | none =>
      rw [hcall, Option.getD_none, label, String.toList_ofList] at hmem
      exact hmem
  | some field =>
      rw [hcall, Option.getD_some] at hmem
      exact mem_of_mem_call? hcall hc hmem

end Field

namespace Token

/-- Only quoted texts have blanks inside. -/
theorem WellFormed.exists_quoted {t : Token} (h : t.WellFormed) {c : Char}
    (hc : Text.isBlank c = true) (hmem : c ∈ t.text.toList) :
    ∃ q inside, t = quoted q inside ∧ c ∈ inside.toList := by
  cases t with
  | word s =>
      have hword := h.2 c hmem
      rw [isWordChar_of_isBlank hc] at hword
      cases hword
  | operator s =>
      have hoperator := h.2 c hmem
      rw [isOperatorChar_of_isBlank hc] at hoperator
      cases hoperator
  | quoted q inside =>
      refine ⟨q, inside, rfl, ?_⟩
      have hquote : c ≠ q.char := by
        intro heq
        rw [heq, isBlank_quote] at hc
        cases hc
      simpa [text, Text.Quote.enclose, hquote] using hmem
  | comma =>
      rw [List.mem_singleton.mp hmem] at hc
      cases hc
  | openParen =>
      rw [List.mem_singleton.mp hmem] at hc
      cases hc
  | closeParen =>
      rw [List.mem_singleton.mp hmem] at hc
      cases hc

end Token

namespace Query

/-- A quoted text of the query has the character. -/
def Quotes (text : String) (c : Char) : Prop :=
  ∃ ts q inside, Token.scan (strip text.toList) = .ok ts ∧ Token.quoted q inside ∈ ts ∧
    c ∈ inside.toList

theorem mem_callText {t : Token} {argument : List Token} {c : Char} (hc : Text.isBlank c = true)
    (hspace : c ≠ ' ') (h : c ∈ (callText t argument).toList) :
    ∃ u ∈ t :: argument, c ∈ u.text.toList := by
  have hopen : c ≠ '(' := by
    intro heq
    rw [heq] at hc
    cases hc
  have hclose : c ≠ ')' := by
    intro heq
    rw [heq] at hc
    cases hc
  have hjoined : (String.intercalate " " (argument.map Token.text)).toList =
      [' '].intercalate (argument.map fun u => u.text.toList) := by
    rw [String.toList_intercalate, List.map_map]
    rfl
  rw [callText, String.toList_append, String.toList_append, String.toList_append, hjoined] at h
  simp only [List.mem_append, Text.mem_intercalate_iff hspace, List.mem_map] at h
  rcases h with ((h | h) | ⟨_, ⟨u, hu, rfl⟩, h⟩) | h
  · exact ⟨t, List.mem_cons_self, h⟩
  · exact absurd (List.mem_singleton.mp h) hopen
  · exact ⟨u, List.mem_cons_of_mem t hu, h⟩
  · exact absurd (List.mem_singleton.mp h) hclose

theorem exists_mem_of_mem_label {f : Field} {ts : List Token} (h : f.Spelled ts) {c : Char}
    (hc : Text.isBlank c = true) (hspace : c ≠ ' ') (hmem : c ∈ f.label.toList) :
    ∃ t ∈ ts, c ∈ t.text.toList := by
  cases h with
  | @name t _ _ =>
      exact ⟨t, List.mem_cons_self, Field.mem_of_mem_label_ofText hc hmem⟩
  | @call t argument _ _ _ _ =>
      rcases mem_callText hc hspace (Field.mem_of_mem_label_ofText hc hmem) with ⟨u, hu, hin⟩
      refine ⟨u, ?_, hin⟩
      rcases List.mem_cons.mp hu with rfl | hu
      · exact List.mem_cons_self
      · simp [hu]

/-- A blank of a label, other than a space, stands in a quoted text. -/
theorem quotes_of_mem_label {text : String} {q : Query} (h : parse text = .ok q) {label : String}
    (hlabel : label ∈ q.labels) {c : Char} (hc : Text.isBlank c = true) (hspace : c ≠ ' ')
    (hmem : c ∈ label.toList) : Quotes text c := by
  rcases List.mem_map.mp hlabel with ⟨f, hf, rfl⟩
  rcases exists_spelled_fields h with ⟨ts, us, hscan, hsub, hfields⟩
  rcases hfields.exists_of_mem hf with ⟨vs, hspelled, hvs⟩
  rcases exists_mem_of_mem_label hspelled hc hspace hmem with ⟨t, ht, hin⟩
  have hmem : t ∈ ts := hsub (hvs ht)
  rcases ((Token.cut_of_scan hscan).wellFormed t hmem).exists_quoted hc hin with
    ⟨quote, inside, rfl, hinside⟩
  exact ⟨ts, quote, inside, hscan, hmem, hinside⟩

theorem labels_ne_nil {text : String} {q : Query} (h : parse text = .ok q) : q.labels ≠ [] := by
  rcases exists_spelled_fields h with ⟨_, _, _, _, hfields⟩
  cases hq : q.fields with
  | nil =>
      rw [hq] at hfields
      cases hfields
  | cons f fields =>
      simp [labels, hq]

end Query

/-!
## Outcomes
-/

/-- The character stands in no text of the table. -/
def Table.Lacks (t : Table) (c : Char) : Prop :=
  ∀ row ∈ t.rows, ∀ column s, row.get? column = some (.text s) → c ∉ s.toList

namespace ResultTable

/-- A blank, other than a space, that neither the texts of the tables nor the quoted texts of the
query have is not in the outcome. -/
theorem lacks_of_answer {source : Source} {text : String} {q : Query} {r : ResultTable} {c : Char}
    (hq : parseQuery text = .ok q) (hr : answer source text = .ok r)
    (hc : Text.isBlank c = true) (hspace : c ≠ ' ') (hquotes : ¬Query.Quotes text c)
    (htables : ∀ name ∈ q.tables, ∀ t, source name = .ok t → t.Lacks c) : r.Lacks c := by
  have hparse := parseQuery_eq_ok_iff.mp hq
  constructor
  · intro label hlabel hmem
    rcases answer_eq_ok_iff.mp hr with ⟨q', _, hq', _, rfl⟩
    cases hq.symm.trans hq'
    exact hquotes (Query.quotes_of_mem_label hparse hlabel hc hspace hmem)
  · -- The property of cells that goes through the query: no text has the character.
    let P : Cell → Prop := fun cell => ∀ s, cell = .text s → c ∉ s.toList
    have hP : Cell.IsOfTexts P := by
      constructor
      · intro s hs
        cases hs
      · intro x s hs
        cases hs
    have hsource : ∀ name ∈ q.tables, ∀ t, source name = .ok t →
        ∀ row ∈ t.rows, row.Forall P := by
      intro name hname t ht row hrow column cell hcell s hs
      subst hs
      exact htables name hname t ht row hrow column s hcell
    intro row hrow column _ s hs
    exact forall_of_answer hP hq hsource hr row hrow column _ hs s rfl

/-- An outcome is printed with one line for its labels and one for each of its rows exactly if no
label and no text in it has a line break, and as a table, cell by cell, exactly if they have no
tabs either.  For this it is enough that the quoted texts of the query and the texts of the
tables that it names have none. -/
theorem isTabular_answer_iff (source : Source) (text : String) (r : ResultTable)
    (h : answer source text = .ok r) :
    (r.lines.length = r.rows.length + 1 ↔ r.Lacks '\n') ∧
      (r.IsTabular ↔ r.Lacks '\n' ∧ r.Lacks '\t') ∧
      ∃ q, parseQuery text = .ok q ∧
        ∀ c, c = '\n' ∨ c = '\t' → ¬Query.Quotes text c →
          (∀ name ∈ q.tables, ∀ t, source name = .ok t → t.Lacks c) → r.Lacks c := by
  rcases answer_eq_ok_iff.mp h with ⟨q, rows, hq, _, hr⟩
  have hcolumns : r.columns ≠ [] := by
    rw [hr]
    exact Query.labels_ne_nil (parseQuery_eq_ok_iff.mp hq)
  refine ⟨length_lines_eq_iff, isTabular_iff hcolumns, q, hq, ?_⟩
  intro c hc
  rcases hc with rfl | rfl
  · exact lacks_of_answer hq h (by decide) (by decide)
  · exact lacks_of_answer hq h (by decide) (by decide)

/-- A tab in a quoted label leaves the lines as they are, but not the cells. -/
theorem isTabular_answer_iff_tab :
    ∃ r, answer Office.source "SELECT name, 'a\tb' FROM staff" = .ok r ∧
      r.lines.length = r.rows.length + 1 ∧ ¬r.IsTabular := by
  let text := "SELECT name, 'a\tb' FROM staff"
  have hcolumns : (answer Office.source text).toOption.map ResultTable.columns =
      some ["name", "'a\tb'"] := by
    decide +kernel
  have hlines : (answer Office.source text).toOption.map
      (fun r => decide (r.lines.length = r.rows.length + 1)) = some true := by
    decide +kernel
  cases h : answer Office.source text with
  | error e =>
      rw [h] at hcolumns
      cases hcolumns
  | ok r =>
      rw [h] at hcolumns hlines
      have hlabels : r.columns = ["name", "'a\tb'"] := Option.some.inj hcolumns
      refine ⟨r, rfl, of_decide_eq_true (Option.some.inj hlines), ?_⟩
      intro htabular
      have hlacks := ((isTabular_answer_iff Office.source text r h).2.1.mp htabular).2
      refine hlacks.labels "'a\tb'" ?_ (by decide)
      simp [hlabels]

/-- One row of a file in which a quoted field has a line break: it is printed on two lines, and
the table on three. -/
theorem answer_line_break :
    let data := DataDirectory.empty.addFile "t.csv" (Csv.bytesOf "a,b\n\"x\ny\",z\n")
    ∃ r, answer data.load "SELECT a, b FROM t" = .ok r ∧
      r.text = "a\tb\nx\ny\tz" ∧ r.rows.length = 1 ∧ r.lines.length = 3 ∧ ¬r.IsTabular := by
  intro data
  have hshown : (answer data.load "SELECT a, b FROM t").toOption.map
      (fun r => (r.text, r.rows.length, r.lines.length)) = some ("a\tb\nx\ny\tz", 1, 3) := by
    decide +kernel
  cases h : answer data.load "SELECT a, b FROM t" with
  | error e =>
      rw [h] at hshown
      cases hshown
  | ok r =>
      rw [h] at hshown
      have hparts := Option.some.inj hshown
      simp only [Prod.mk.injEq] at hparts
      rcases hparts with ⟨htext, hrows, hlines⟩
      refine ⟨r, rfl, htext, hrows, hlines, ?_⟩
      intro htabular
      have hlength := htabular.lines
      rw [hlines, hrows] at hlength
      cases hlength

end ResultTable
end TableQuery
