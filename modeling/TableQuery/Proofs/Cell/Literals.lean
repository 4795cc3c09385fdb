import TableQuery.Cell
import TableQuery.Proofs.Query.Literal

/-!
# What texts are compared as

A text is compared as the number that it is written for, or as itself.  Quotes around it are
dropped before, by comparisons only: no text in quotes is a number to an aggregate.
-/

namespace TableQuery

/-!
## Numerals
-/

namespace Decimal

variable {cs : List Char} {x : Float}

/-- The text is written for a finite number: between the blanks at its ends it is not empty,
and the whole of it is read as that number. -/
structure IsNumeral (cs : List Char) (x : Float) : Prop where
  ne_nil : Text.trim cs ≠ []
  read : read? (Text.trim cs) = some x
  isFinite : isFinite x = true

theorem read?_nil : read? [] = none := by
  decide +kernel

theorem readFinite?_trim_iff : readFinite? (Text.trim cs) = some x ↔ IsNumeral cs x := by
  rw [readFinite?, Option.filter_eq_some_iff]
  constructor
  · intro h
    refine ⟨?_, h.1, h.2⟩
    intro hnil
    rw [hnil, read?_nil] at h
    cases h.1
  · intro h
    exact ⟨h.read, h.isFinite⟩

theorem readFinite?_trim_eq_none_iff :
    readFinite? (Text.trim cs) = none ↔ ∀ x, ¬IsNumeral cs x := by
  rw [Option.eq_none_iff_forall_ne_some]
  exact forall_congr' fun x => not_congr readFinite?_trim_iff

theorem word?_quote (q : Text.Quote) (cs : List Char) : word? (q.char :: cs) = none := by
  have hne : ∀ w : String, w.toList.head?.bind Text.Quote.ofChar? = none →
      String.ofList ((q.char :: cs).map Char.toLower) ≠ w := by
    intro w hw
    have hquote : q.char.toLower = q.char := by
      cases q <;> rfl
    rw [List.map_cons, hquote]
    exact ofList_quote_ne hw _
  simp only [word?, hne "inf" rfl, hne "infinity" rfl, hne "nan" rfl, decide_false,
    Bool.or_self, Bool.false_eq_true, if_false]

theorem magnitude?_quote (q : Text.Quote) (cs : List Char) : magnitude? (q.char :: cs) = none := by
  cases q <;> simp [magnitude?, takeDigits, Text.Quote.char, Char.isDigit]

/-- No number is written with a quote in front. -/
theorem read?_quote (q : Text.Quote) (cs : List Char) : read? (q.char :: cs) = none := by
  have hsign : takeSign (q.char :: cs) = (false, q.char :: cs) := by
    cases q <;> rfl
  simp [read?, hsign, word?_quote, magnitude?_quote]

theorem not_isNumeral_enclose (q : Text.Quote) (inside : List Char) :
    ¬IsNumeral (q.enclose inside) x := by
  intro h
  have hread := h.read
  rw [Text.Quote.enclose, List.cons_append, Text.trim_quote, read?_quote] at hread
  cases hread

end Decimal

/-!
## Literals
-/

namespace Cell

open Decimal (IsNumeral)

variable {s : String} {x : Float}

theorem ofLiteral_eq_number_iff :
    ofLiteral s = number x ↔ IsNumeral (Text.stripQuotes s.toList) x := by
  rw [← Decimal.readFinite?_trim_iff, ofLiteral]
  cases Decimal.readFinite? (Text.trim (Text.stripQuotes s.toList)) with
  | none =>
      simp
  | some y =>
      simp

/-- A text that is no number is compared as it stands between its quotes. -/
theorem ofLiteral_of_not_isNumeral (h : ∀ x, ¬IsNumeral (Text.stripQuotes s.toList) x) :
    ofLiteral s = text (String.ofList (Text.stripQuotes s.toList)) := by
  rw [ofLiteral, Decimal.readFinite?_trim_eq_none_iff.mpr h]

theorem ofLiteral_cases (s : String) :
    (∃ x, ofLiteral s = number x ∧ Decimal.isFinite x = true) ∨ ∃ t, ofLiteral s = text t := by
  by_cases h : ∃ x, IsNumeral (Text.stripQuotes s.toList) x
  · rcases h with ⟨x, hx⟩
    exact Or.inl ⟨x, ofLiteral_eq_number_iff.mpr hx, hx.isFinite⟩
  · exact Or.inr ⟨_, ofLiteral_of_not_isNumeral (not_exists.mp h)⟩

theorem ofLiteral_ne_null (s : String) : ofLiteral s ≠ null := by
  intro hnull
  rcases ofLiteral_cases s with ⟨x, hx, _⟩ | ⟨t, ht⟩
  · rw [hx] at hnull
    cases hnull
  · rw [ht] at hnull
    cases hnull

theorem reading?_text_eq_some_iff : (text s).reading? = some x ↔ IsNumeral s.toList x :=
  Decimal.readFinite?_trim_iff

/-!
## Finite cells
-/

/-- Not an infinite or an undefined number. -/
def IsFinite : Cell → Prop
  | .number x => Decimal.isFinite x = true
  | _ => True

instance : DecidablePred IsFinite
  | .null => instDecidableTrue
  | .number x => inferInstanceAs (Decidable (Decimal.isFinite x = true))
  | .text _ => instDecidableTrue

theorem isFinite_ofLiteral (literal : String) : (ofLiteral literal).IsFinite := by
  rcases ofLiteral_cases literal with ⟨x, hx, hfinite⟩ | ⟨t, ht⟩
  · rw [hx]
    exact hfinite
  · rw [ht]
    trivial

theorem IsFinite.coerce {cell : Cell} (h : cell.IsFinite) : cell.coerce.IsFinite := by
  cases cell with
  | null =>
      trivial
  | number x =>
      exact h
  | text s =>
      exact isFinite_ofLiteral s

end Cell
end TableQuery
