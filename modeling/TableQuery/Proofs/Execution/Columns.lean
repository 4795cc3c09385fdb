import TableQuery.Proofs.Execution.Shape
import TableQuery.Proofs.Query.Labels
import TableQuery.Proofs.Query.Spelling

/-!
# Columns of an outcome

The fields of a query are fields that texts ask for.  The columns of its outcome, and the names
in the rows, are the labels of these fields, so each of them read as a text gives the field that
it stands for.
-/

namespace TableQuery

namespace Field

theorem Spelled.isCanonical {f : Field} {ts : List Token} (h : f.Spelled ts) : f.IsCanonical := by
  cases h with
  | name _ _ =>
      exact isCanonical_ofText _
  | call _ _ _ _ =>
      exact isCanonical_ofText _

end Field

namespace Query

variable {text : String} {q : Query}

/-- The fields of a query, at least one, are spelled by tokens of its text. -/
theorem exists_spelled_fields (h : parse text = .ok q) :
    ∃ ts us, Token.scan (strip text.toList) = .ok ts ∧ us ⊆ ts ∧
      Separated Token.isComma Field.Spelled q.fields us := by
  rcases parse_eq_ok_iff.mp h with ⟨ts, hscan, htokens⟩
  cases ofTokens_eq_ok_iff.mp htokens with
  | mk _ hfields _ _ _ _ _ =>
      refine ⟨_, _, hscan, ?_, hfields⟩
      intro t ht
      exact List.mem_cons_of_mem _ (List.mem_append_left _ ht)

theorem isCanonical_of_parse (h : parse text = .ok q) : ∀ f ∈ q.fields, f.IsCanonical := by
  intro f hf
  rcases exists_spelled_fields h with ⟨_, _, _, _, hfields⟩
  rcases hfields.exists_of_mem hf with ⟨_, hspelled, _⟩
  exact hspelled.isCanonical

end Query

namespace Field

/-- Labels are a canonical form of the texts that ask for fields: the label of a field asks for
the field again, and no other field that a text can ask for has the label.  The columns of an
outcome therefore name the fields of the query, different ones differently, and so do the names
in its rows. -/
theorem label_canonical :
    (∀ text, ofText (ofText text).label = ofText text) ∧
      (∀ text other, (ofText text).label = (ofText other).label ↔ ofText text = ofText other) ∧
      (∀ field : Field, (∃ text, ofText text = field) ↔ field.IsCanonical) ∧
      ∀ (source : Source) (text : String) (r : ResultTable), answer source text = .ok r →
        ∃ q, parseQuery text = .ok q ∧ r.columns.map ofText = q.fields ∧
          (∀ f ∈ q.fields, ∀ g ∈ q.fields, f ≠ g → f.label ≠ g.label) ∧
          ∀ row ∈ r.rows, ∀ key ∈ row.keys, ∃ f ∈ q.fields, f.label = key ∧ ofText key = f := by
  refine ⟨ofText_label_ofText, ?_, fun field => isCanonical_iff_exists.symm, ?_⟩
  · intro text other
    constructor
    · intro hlabel
      rw [← ofText_label_ofText text, hlabel, ofText_label_ofText]
    · intro hfield
      rw [hfield]
  · intro source text r h
    rcases answer_eq_ok_iff.mp h with ⟨q, rows, hq, _, rfl⟩
    have hcanonical := Query.isCanonical_of_parse (parseQuery_eq_ok_iff.mp hq)
    refine ⟨q, hq, ?_, ?_, ?_⟩
    · rw [Query.labels, List.map_map]
      exact (List.map_congr_left fun f hf => ofText_label (hcanonical f hf)).trans (List.map_id _)
    · intro f hf g hg hne hlabel
      exact hne (areToldApart_of_isCanonical hcanonical f hf g hg hlabel)
    · intro row hrow key hkey
      rw [Query.keys_of_mem_shape hrow, List.mem_eraseDups] at hkey
      rcases List.mem_map.mp hkey with ⟨f, hf, rfl⟩
      exact ⟨f, hf, rfl, ofText_label (hcanonical f hf)⟩

/-- A column whose name looks like a call stands beside the call itself. -/
theorem label_canonical_quoted :
    let text := "SELECT count( name ), name, 'COUNT(name)', COUNT(name) FROM staff"
    ∃ r, answer Office.source text = .ok r ∧ ∃ q, parseQuery text = .ok q ∧
      r.columns.map ofText = q.fields ∧
      (∀ f ∈ q.fields, ∀ g ∈ q.fields, f ≠ g → f.label ≠ g.label) ∧
      ∀ row ∈ r.rows, ∀ key ∈ row.keys, ∃ f ∈ q.fields, f.label = key ∧ ofText key = f := by
  intro text
  have hok : (answer Office.source text).isOk = true := by decide +kernel
  cases h : answer Office.source text with
  | error e =>
      rw [h] at hok
      cases hok
  | ok r =>
      exact ⟨r, rfl, label_canonical.2.2.2 Office.source text r h⟩

end Field
end TableQuery
