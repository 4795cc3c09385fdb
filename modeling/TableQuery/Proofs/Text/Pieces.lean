import Mathlib.Data.List.Basic
import TableQuery.Text.Cut

/-!
# Texts joined by a separator

Joining texts by a separator keeps exactly the pieces between the separators, those
inside the texts included.  Which of the separators were put between two texts is lost,
unless it is known how many each text has inside.
-/

namespace TableQuery
namespace Text

variable {sep : Char}

/-!
## Pieces of one text
-/

@[simp]
theorem pieces_cons_self (cs : List Char) : pieces sep (sep :: cs) = [] :: pieces sep cs := by
  simp [pieces]

theorem pieces_cons_of_ne {c : Char} (h : c ≠ sep) (cs : List Char) :
    ∃ piece rest, pieces sep cs = piece :: rest ∧ pieces sep (c :: cs) = (c :: piece) :: rest := by
  cases hpieces : pieces sep cs with
  | nil =>
      exact absurd hpieces (pieces_ne_nil sep cs)
  | cons piece rest =>
      exact ⟨piece, rest, rfl, by simp [pieces, h, hpieces]⟩

theorem pieces_append_cons (xs ys : List Char) :
    pieces sep (xs ++ sep :: ys) = pieces sep xs ++ pieces sep ys := by
  induction xs with
  | nil =>
      simp [pieces]
  | cons c xs ih =>
      by_cases h : c = sep
      · subst h
        rw [List.cons_append, pieces_cons_self, pieces_cons_self, ih, List.cons_append]
      · rcases pieces_cons_of_ne h xs with ⟨piece, rest, hxs, hcons⟩
        rw [hcons, List.cons_append, pieces, if_neg h, ih, hxs]
        rfl

theorem length_pieces (cs : List Char) : (pieces sep cs).length = cs.count sep + 1 := by
  induction cs with
  | nil =>
      rfl
  | cons c cs ih =>
      by_cases h : c = sep
      · subst h
        rw [pieces_cons_self, List.length_cons, ih, List.count_cons_self]
      · rcases pieces_cons_of_ne h cs with ⟨piece, rest, hcs, hcons⟩
        rw [hcons, List.count_cons_of_ne h, ← ih, hcs]
        rfl

theorem intercalate_pieces (sep : Char) (cs : List Char) :
    [sep].intercalate (pieces sep cs) = cs := by
  induction cs with
  | nil =>
      rfl
  | cons c cs ih =>
      by_cases h : c = sep
      · subst h
        rw [pieces_cons_self]
        cases hcs : pieces c cs with
        | nil =>
            exact absurd hcs (pieces_ne_nil c cs)
        | cons piece rest =>
            rw [List.intercalate_cons_cons, ← hcs, ih]
            rfl
      · rcases pieces_cons_of_ne h cs with ⟨piece, rest, hcs, hcons⟩
        rw [hcs] at ih
        rw [hcons, ← ih]
        cases rest with
        | nil =>
            simp
        | cons next rest =>
            simp [List.intercalate_cons_cons]

theorem pieces_of_notMem {cs : List Char} (h : sep ∉ cs) : pieces sep cs = [cs] := by
  have hlength : (pieces sep cs).length = 1 := by
    rw [length_pieces, List.count_eq_zero.mpr h]
  rcases List.length_eq_one_iff.mp hlength with ⟨piece, hpiece⟩
  have hjoined := intercalate_pieces sep cs
  rw [hpiece, List.intercalate_singleton] at hjoined
  rw [hpiece, hjoined]

theorem notMem_of_mem_pieces {cs piece : List Char} (h : piece ∈ pieces sep cs) : sep ∉ piece := by
  induction cs generalizing piece with
  | nil =>
      rw [pieces, List.mem_singleton] at h
      rw [h]
      exact List.not_mem_nil
  | cons c cs ih =>
      by_cases hc : c = sep
      · subst hc
        rw [pieces_cons_self] at h
        rcases List.mem_cons.mp h with rfl | h
        · exact List.not_mem_nil
        · exact ih h
      · rcases pieces_cons_of_ne hc cs with ⟨first, rest, hcs, hcons⟩
        rw [hcons] at h
        rcases List.mem_cons.mp h with rfl | h
        · rw [List.mem_cons, not_or]
          exact ⟨Ne.symm hc, ih (hcs ▸ List.mem_cons_self)⟩
        · exact ih (hcs ▸ List.mem_cons_of_mem first h)

theorem pieces_inj (sep : Char) {xs ys : List Char} :
    pieces sep xs = pieces sep ys ↔ xs = ys := by
  constructor
  · intro h
    rw [← intercalate_pieces sep xs, h, intercalate_pieces]
  · intro h
    rw [h]

/-!
## Pieces of joined texts
-/

theorem pieces_intercalate {texts : List (List Char)} (h : texts ≠ []) :
    pieces sep ([sep].intercalate texts) = texts.flatMap (pieces sep) := by
  induction texts with
  | nil =>
      exact absurd rfl h
  | cons text texts ih =>
      cases texts with
      | nil =>
          simp
      | cons next texts =>
          rw [List.intercalate_cons_cons, List.append_assoc, List.singleton_append,
            pieces_append_cons, ih (List.cons_ne_nil next texts)]
          simp

theorem exists_intercalate (sep : List Char) (before after : List (List Char)) :
    ∃ front back, ∀ cs, sep.intercalate (before ++ cs :: after) = front ++ cs ++ back := by
  induction before with
  | nil =>
      cases after with
      | nil =>
          exact ⟨[], [], by simp⟩
      | cons next after =>
          exact ⟨[], sep ++ sep.intercalate (next :: after), by simp [List.intercalate_cons_cons]⟩
  | cons text before ih =>
      rcases ih with ⟨front, back, h⟩
      refine ⟨text ++ sep ++ front, back, ?_⟩
      intro cs
      rw [List.cons_append, List.intercalate_cons_of_ne_nil (by simp), h]
      simp

theorem mem_of_mem_pieces {cs piece : List Char} (h : piece ∈ pieces sep cs) {c : Char}
    (hc : c ∈ piece) : c ∈ cs := by
  rcases List.append_of_mem h with ⟨before, after, hpieces⟩
  rcases exists_intercalate [sep] before after with ⟨front, back, hjoined⟩
  rw [← intercalate_pieces sep cs, hpieces, hjoined]
  exact List.mem_append_left _ (List.mem_append_right _ hc)

theorem mem_intercalate_iff {c : Char} (h : c ≠ sep) {texts : List (List Char)} :
    c ∈ [sep].intercalate texts ↔ ∃ text ∈ texts, c ∈ text := by
  induction texts with
  | nil =>
      simp
  | cons text texts ih =>
      cases texts with
      | nil =>
          simp
      | cons next texts =>
          rw [List.intercalate_cons_cons, List.mem_append, List.mem_append, ih,
            List.mem_singleton, List.exists_mem_cons_iff]
          simp [h]

theorem length_le_length_flatMap_pieces (texts : List (List Char)) :
    texts.length ≤ (texts.flatMap (pieces sep)).length := by
  induction texts with
  | nil =>
      exact Nat.le_refl _
  | cons text texts ih =>
      rw [List.flatMap_cons, List.length_append, length_pieces, List.length_cons]
      omega

theorem length_flatMap_pieces_iff {texts : List (List Char)} :
    (texts.flatMap (pieces sep)).length = texts.length ↔ ∀ text ∈ texts, sep ∉ text := by
  induction texts with
  | nil =>
      simp
  | cons text texts ih =>
      have hle : texts.length ≤ (texts.flatMap (pieces sep)).length :=
        length_le_length_flatMap_pieces texts
      rw [List.flatMap_cons, List.length_append, length_pieces, List.length_cons,
        List.forall_mem_cons, ← ih, ← List.count_eq_zero]
      omega

theorem flatMap_pieces_of_notMem {texts : List (List Char)} (h : ∀ text ∈ texts, sep ∉ text) :
    texts.flatMap (pieces sep) = texts :=
  (List.flatMap_congr fun text htext => pieces_of_notMem (h text htext)).trans
    (List.flatMap_singleton' texts)

theorem intercalate_inj_iff {xs ys : List (List Char)} (hlength : xs.length = ys.length) :
    [sep].intercalate xs = [sep].intercalate ys ↔
      xs.flatMap (pieces sep) = ys.flatMap (pieces sep) := by
  cases xs with
  | nil =>
      rw [List.length_nil, eq_comm, List.length_eq_zero_iff] at hlength
      simp [hlength]
  | cons x xs =>
      have hys : ys ≠ [] := by
        intro hnil
        simp [hnil] at hlength
      rw [← pieces_inj sep, pieces_intercalate (List.cons_ne_nil x xs),
        pieces_intercalate hys]

theorem flatMap_pieces_inj {xs ys : List (List Char)}
    (hcounts : xs.map (List.count sep) = ys.map (List.count sep)) :
    xs.flatMap (pieces sep) = ys.flatMap (pieces sep) ↔ xs = ys := by
  constructor
  · intro hpieces
    induction xs generalizing ys with
    | nil =>
        cases ys with
        | nil =>
            rfl
        | cons y ys =>
            cases hcounts
    | cons x xs ih =>
        cases ys with
        | nil =>
            cases hcounts
        | cons y ys =>
            rw [List.map_cons, List.map_cons, List.cons.injEq] at hcounts
            rw [List.flatMap_cons, List.flatMap_cons] at hpieces
            -- The first texts have as many pieces, so the list is cut behind them.
            have hlength : (pieces sep x).length = (pieces sep y).length := by
              rw [length_pieces, length_pieces, hcounts.1]
            rcases List.append_inj hpieces hlength with ⟨hfirst, hrest⟩
            rw [(pieces_inj sep).mp hfirst, ih hcounts.2 hrest]
  · intro h
    rw [h]

end Text
end TableQuery
