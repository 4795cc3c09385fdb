/-!
# Cutting a text

A text is cut at the first place where a character occurs.  The parts determine
the text, and the left part does not contain the character.
-/

namespace TableQuery
namespace Text

/-- The parts before and after the first `sep`, if it occurs. -/
def cut? (sep : Char) : List Char → Option (List Char × List Char)
  | [] => none
  | c :: cs =>
      if c = sep then
        some ([], cs)
      else
        (cut? sep cs).map fun parts => (c :: parts.1, parts.2)

@[simp]
theorem cut?_nil (sep : Char) : cut? sep [] = none :=
  rfl

theorem cut?_eq_none_iff {sep : Char} {cs : List Char} :
    cut? sep cs = none ↔ sep ∉ cs := by
  induction cs with
  | nil =>
      simp
  | cons c cs ih =>
      by_cases h : c = sep
      · simp [cut?, h]
      · simp [cut?, h, ih, Ne.symm h]

theorem cut?_eq_some_iff {sep : Char} {cs before after : List Char} :
    cut? sep cs = some (before, after) ↔
      cs = before ++ sep :: after ∧ sep ∉ before := by
  induction cs generalizing before with
  | nil =>
      simp
  | cons c cs ih =>
      by_cases h : c = sep
      · subst h
        cases before with
        | nil =>
            simp [cut?]
        | cons b before =>
            simp only [cut?, if_true, List.cons_append, List.mem_cons, not_or]
            constructor
            · intro hsome
              simp at hsome
            · rintro ⟨heq, hne, _⟩
              simp only [List.cons.injEq] at heq
              exact absurd heq.1 hne
      · cases before with
        | nil =>
            simp [cut?, h]
        | cons b before =>
            simp only [cut?, h, if_false, Option.map_eq_some_iff, Prod.exists,
              Prod.mk.injEq, List.cons.injEq, List.cons_append, List.mem_cons, not_or]
            constructor
            · rintro ⟨x, y, hcut, ⟨rfl, rfl⟩, rfl⟩
              have := ih.1 hcut
              exact ⟨⟨rfl, this.1⟩, Ne.symm h, this.2⟩
            · rintro ⟨⟨rfl, htail⟩, _, hmem⟩
              exact ⟨before, after, ih.2 ⟨htail, hmem⟩, ⟨rfl, rfl⟩, rfl⟩

/-- The pieces between the occurrences of `sep`: one more than there are occurrences. -/
def pieces (sep : Char) : List Char → List (List Char)
  | [] => [[]]
  | c :: cs =>
      if c = sep then
        [] :: pieces sep cs
      else
        match pieces sep cs with
        | [] => [[c]]
        | piece :: rest => (c :: piece) :: rest

theorem pieces_ne_nil (sep : Char) (cs : List Char) : pieces sep cs ≠ [] := by
  cases cs with
  | nil =>
      simp [pieces]
  | cons c cs =>
      simp only [pieces]
      split
      · simp
      · split <;> simp

/-- The text without `tail` at its end, if it ends so. -/
def stripEnd? (tail cs : List Char) : Option (List Char) :=
  if tail.isSuffixOf cs then some (cs.take (cs.length - tail.length)) else none

@[simp]
theorem stripEnd?_append (tail cs : List Char) : stripEnd? tail (cs ++ tail) = some cs := by
  simp [stripEnd?]

theorem stripEnd?_append_of_ne {c d : Char} (h : c ≠ d) (cs : List Char) :
    stripEnd? [d] (cs ++ [c]) = none := by
  have hsuffix : ¬[d] <:+ cs ++ [c] := by
    rintro ⟨before, heq⟩
    rcases List.append_inj_right' heq rfl with ⟨rfl⟩
    exact h rfl
  simpa [stripEnd?] using hsuffix

end Text
end TableQuery
