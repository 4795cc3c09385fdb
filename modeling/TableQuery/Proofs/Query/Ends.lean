import TableQuery.Proofs.Query.Layout

/-!
# Literals at the end of a text

A text ends in blanks and in at most one semicolon that do not count.  What is cut off there
never belongs to a literal in quotes, so that what is left behind the literal does not depend
on it.  Of a word it is one semicolon at most, where nothing but blanks follows the word.
-/

namespace TableQuery
namespace Token

/-!
## Literals behind an operator
-/

/-- The tokens that are written as literals. -/
inductive IsLiteral : Token → Prop where
  | word {s : String} : (word s).WellFormed → IsLiteral (word s)
  | quoted (q : Text.Quote) (s : String) : IsLiteral (quoted q s)

theorem IsLiteral.wellFormed {t : Token} (h : t.IsLiteral) : t.WellFormed := by
  cases h with
  | word h =>
      exact h
  | quoted q s =>
      trivial

theorem IsLiteral.isPunctuation {t : Token} (h : t.IsLiteral) : t.isPunctuation = false := by
  cases h <;> rfl

theorem IsLiteral.exists_write {t : Token} (h : t.IsLiteral) :
    ∃ c cs, t.write = c :: cs ∧ isOperatorChar c = false := by
  cases h with
  | @word s h =>
      rcases List.exists_cons_of_ne_nil h.1 with ⟨c, cs, hs⟩
      have hc := h.2 c (hs ▸ List.mem_cons_self)
      exact ⟨c, cs, hs, (isWordChar_iff.mp hc).2.2.2⟩
  | quoted q s =>
      exact ⟨q.char, _, rfl, by cases q <;> decide⟩

/-- Nothing, or a text with a blank in front. -/
def StartsBlank (cs : List Char) : Prop :=
  ∀ c ∈ cs.head?, Text.isBlank c = true

theorem scan_write_append {t : Token} (h : t.WellFormed) {post : List Char}
    (hpost : StartsBlank post) : scan (t.write ++ post) = (scan post).map (t :: ·) := by
  cases post with
  | nil =>
      rw [List.append_nil, (cut_write h).scan_eq, scan_nil]
      rfl
  | cons c post =>
      rw [(cut_write h).scan_append_blank (hpost c rfl), scan_blank (hpost c rfl)]
      rfl

/-- A literal behind an operator, with blanks between them or without. -/
theorem scan_literal {pre post : List Char} {ts : List Token} {s : String}
    (hpre : scan pre = .ok ts) (hlast : ts.getLast? = some (operator s)) {t : Token}
    (ht : t.IsLiteral) (hpost : StartsBlank post) :
    scan (pre ++ t.write ++ post) = (scan post).map (ts ++ t :: ·) := by
  rcases ht.exists_write with ⟨c, cs, hwrite, hc⟩
  have hend : ∀ u ∈ ts.getLast?, u.EndsAt c := by
    intro u hu
    rw [hlast] at hu
    cases hu
    exact hc
  have hscan := (cut_of_scan hpre).scan_append_cons hend (cs ++ post)
  rw [← List.cons_append, ← hwrite, scan_write_append ht.wellFormed hpost] at hscan
  rw [List.append_assoc, hscan]
  cases scan post <;> rfl

/-!
## The end of the text
-/

/-- What can stand behind a literal: nothing, a text with a blank in front, or the semicolon
that ends the whole text. -/
inductive FollowsLiteral : List Char → Prop where
  | startsBlank {post : List Char} : StartsBlank post → FollowsLiteral post
  | semicolon {gap : List Char} : (∀ c ∈ gap, Text.isBlank c = true) → FollowsLiteral (';' :: gap)

theorem isBlank_semicolon : Text.isBlank ';' = false :=
  rfl

theorem startsBlank_of_blanks {gap : List Char} (h : ∀ c ∈ gap, Text.isBlank c = true) :
    StartsBlank gap := by
  intro c hc
  exact h c (List.mem_of_mem_head? hc)

theorem followsLiteral_cons {c : Char} (h : Text.isBlank c = true) (post : List Char) :
    FollowsLiteral (c :: post) := by
  refine FollowsLiteral.startsBlank ?_
  intro d hd
  cases hd
  exact h

theorem StartsBlank.front {front gap : List Char} {last : Char}
    (h : StartsBlank (front ++ last :: gap)) (hlast : Text.isBlank last = false)
    (more : List Char) : StartsBlank (front ++ more) := by
  intro c hc
  cases front with
  | nil =>
      have hblank := h last rfl
      rw [hlast] at hblank
      cases hblank
  | cons d front =>
      cases hc
      exact h c rfl

/-- The token has a semicolon at its end that the whole text ends in. -/
def LosesEnd (t : Token) (post : List Char) : Prop :=
  t.write.getLast? = some ';' ∧ ∀ c ∈ post, Text.isBlank c = true

theorem IsLiteral.exists_write_concat {t : Token} (h : t.IsLiteral) :
    ∃ front last, t.write = front ++ [last] ∧ Text.isBlank last = false := by
  cases h with
  | @word s h =>
      have hs := List.dropLast_concat_getLast h.1
      have hlast := h.2 _ (List.getLast_mem h.1)
      exact ⟨s.toList.dropLast, s.toList.getLast h.1, hs.symm, (isWordChar_iff.mp hlast).1⟩
  | quoted q s =>
      exact ⟨q.char :: q.escape s.toList, q.char, rfl, isBlank_quote q⟩

theorem not_losesEnd_quoted (q : Text.Quote) (s : String) (post : List Char) :
    ¬(quoted q s).LosesEnd post := by
  intro h
  have hlast : (quoted q s).write.getLast? = some q.char :=
    List.getLast?_concat (l := q.char :: q.escape s.toList)
  rw [LosesEnd, hlast] at h
  cases q with
  | single =>
      exact absurd h.1 (by decide)
  | double =>
      exact absurd h.1 (by decide)

/-- The query text with the token between two others. -/
def between (pre : List Char) (t : Token) (post : List Char) : String :=
  String.ofList (pre ++ t.write ++ post)

/-- The semicolon at the end of a word is the one that the text ends in. -/
theorem between_semicolon (pre : List Char) (s : String) (gap : List Char) :
    between pre (word (s ++ ";")) gap = between pre (word s) (';' :: gap) := by
  have hwrite : (word (s ++ ";")).write = s.toList ++ [';'] :=
    String.toList_append
  rw [between, between, hwrite, List.append_assoc, List.append_assoc,
    List.append_assoc]
  rfl

theorem not_losesEnd_semicolon (t : Token) (gap : List Char) : ¬t.LosesEnd (';' :: gap) := by
  intro h
  have hblank := h.2 ';' List.mem_cons_self
  cases hblank

theorem exists_word_of_losesEnd {s : String} {post : List Char} (hword : (word s).WellFormed)
    (hend : (word s).LosesEnd post) : ∃ w, s = w ++ ";" ∧ (w ≠ "" → (word w).WellFormed) := by
  rcases List.getLast?_eq_some_iff.mp hend.1 with ⟨front, hfront⟩
  have hs : s = String.ofList front ++ ";" := by
    rw [← String.toList_inj, String.toList_append, String.toList_ofList]
    exact hfront
  refine ⟨String.ofList front, hs, ?_⟩
  intro hne
  constructor
  · intro hnil
    exact hne (String.toList_inj.mp hnil)
  · intro c hc
    refine hword.2 c ?_
    rw [hs, String.toList_append]
    exact List.mem_append_left _ hc

end Token

namespace Query

/-- Blanks behind a literal are cut off, and the literal is kept. -/
theorem scan_strip_write {t : Token} (ht : t.IsLiteral) {gap : List Char}
    (hgap : ∀ c ∈ gap, Text.isBlank c = true) (hend : ¬t.LosesEnd gap) (pre : List Char) :
    Token.scan (strip (pre ++ t.write ++ gap)) = Token.scan (pre ++ t.write) := by
  rcases ht.exists_write_concat with ⟨inside, last, hwrite, hlast⟩
  have hsemicolon : last ≠ ';' := by
    intro heq
    refine hend ⟨?_, hgap⟩
    rw [hwrite, heq, List.getLast?_concat]
  have hscan := scan_strip_append_cons hlast hgap (pre ++ inside)
  rw [if_neg hsemicolon] at hscan
  rw [hwrite]
  simpa using hscan

/-- At the end of a text only what follows a literal is cut off, never the literal itself. -/
theorem exists_rest_of_followsLiteral {post : List Char} (h : Token.FollowsLiteral post) :
    ∃ rest, Token.StartsBlank rest ∧ Token.scan (strip post) = Token.scan rest ∧
      ∀ {t : Token}, t.IsLiteral → ¬t.LosesEnd post → ∀ pre,
        Token.scan (strip (pre ++ t.write ++ post)) = Token.scan (pre ++ t.write ++ rest) := by
  cases h with
  | @semicolon gap hgap =>
      refine ⟨[], Token.startsBlank_of_blanks (by simp), ?_, ?_⟩
      · exact scan_strip_append_cons Token.isBlank_semicolon hgap []
      · intro t _ _ pre
        rw [scan_strip_append_cons Token.isBlank_semicolon hgap, if_pos rfl, List.append_nil]
  | startsBlank hpost =>
      rcases Text.blank_or_exists_last post with hblank | ⟨front, last, gap, rfl, hlast, hgap⟩
      · refine ⟨[], Token.startsBlank_of_blanks (by simp), ?_, ?_⟩
        · rw [strip_blanks hblank]
        · intro t ht hend pre
          rw [scan_strip_write ht hblank hend, List.append_nil]
      · -- What is left of the text still begins with its blank.
        refine ⟨if last = ';' then front else front ++ [last], ?_, ?_, ?_⟩
        · split
          · simpa using hpost.front hlast []
          · exact hpost.front hlast [last]
        · rw [scan_strip_append_cons hlast hgap, apply_ite Token.scan]
        · intro t _ _ pre
          rw [← List.append_assoc, scan_strip_append_cons hlast hgap]
          split
          · rfl
          · rw [List.append_assoc]

end Query
end TableQuery
