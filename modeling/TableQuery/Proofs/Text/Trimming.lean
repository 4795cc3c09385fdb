import TableQuery.Text.Blank

/-!
# Trimmed texts

A text is trimmed if no blank stands at either of its ends.  Trimming leaves such a text as
it is, and leads to such a text.
-/

namespace TableQuery
namespace Text

/-- No blank stands at an end of the text. -/
def IsTrimmed (cs : List Char) : Prop :=
  cs.head?.any isBlank = false ∧ cs.getLast?.any isBlank = false

instance (cs : List Char) : Decidable (IsTrimmed cs) :=
  inferInstanceAs (Decidable (_ ∧ _))

theorem dropWhile_isBlank_of_head? {cs : List Char} (h : cs.head?.any isBlank = false) :
    cs.dropWhile isBlank = cs := by
  cases cs with
  | nil =>
      rfl
  | cons c cs =>
      have hc : isBlank c = false := h
      exact List.dropWhile_cons_of_neg (by simp [hc])

theorem IsTrimmed.trim_eq {cs : List Char} (h : IsTrimmed cs) : trim cs = cs := by
  have hreverse : cs.reverse.head?.any isBlank = false := by
    rw [List.head?_reverse]
    exact h.2
  rw [trim, trimLeft, trimRight, dropWhile_isBlank_of_head? h.1,
    dropWhile_isBlank_of_head? hreverse, List.reverse_reverse]

theorem head?_dropWhile_isBlank (cs : List Char) :
    (cs.dropWhile isBlank).head?.any isBlank = false := by
  have hnot := List.head?_dropWhile_not isBlank cs
  cases h : (cs.dropWhile isBlank).head? with
  | none =>
      rfl
  | some c =>
      rw [h] at hnot
      exact hnot

theorem isTrimmed_trim (cs : List Char) : IsTrimmed (trim cs) := by
  constructor
  · -- What is left at the front by dropping blanks at the end is a front of the rest.
    rcases trimRight_prefix (trimLeft cs) with ⟨tail, htail⟩
    have hhead := head?_dropWhile_isBlank cs
    rw [← trimLeft, ← htail] at hhead
    rw [trim]
    cases htrim : trimRight (trimLeft cs) with
    | nil =>
        rfl
    | cons c rest =>
        rw [htrim] at hhead
        exact hhead
  · rw [trim, trimRight, List.getLast?_reverse]
    exact head?_dropWhile_isBlank _

@[simp]
theorem trim_subset (cs : List Char) : trim cs ⊆ cs := by
  have hright := trimRight_prefix (trimLeft cs)
  have hleft : (trimLeft cs).Sublist cs := List.dropWhile_sublist isBlank
  exact List.Subset.trans hright.subset hleft.subset

end Text
end TableQuery
