import TableQuery.Query.Token

/-!
# Words in any letter case

A word that is a keyword up to the case of its letters is made of letters alone, is no
other keyword, and has the keyword as its upper-case form.
-/

namespace TableQuery
namespace Text

/-!
## Capital letters
-/

section Capitals

variable {c d : Char}

theorem exists_of_isUpper (h : d.isUpper = true) :
    ∃ n : Fin 26, d = Char.ofNat (65 + n) := by
  have hbounds : d.val ≥ 65 ∧ d.val ≤ 90 := of_decide_eq_true h
  have hleast : 65 ≤ d.toNat := UInt32.le_iff_toNat_le.mp hbounds.1
  have hgreatest : d.toNat ≤ 90 := UInt32.le_iff_toNat_le.mp hbounds.2
  refine ⟨⟨d.toNat - 65, by omega⟩, ?_⟩
  have hsum : 65 + (d.toNat - 65) = d.toNat := by omega
  simp only [hsum, Char.ofNat_toNat]

theorem toLower_of_not_isUpper (h : ¬c.isUpper = true) : c.toLower = c := by
  have hbounds : ¬(c.val ≥ 65 ∧ c.val ≤ 90) := fun hbounds => h (decide_eq_true hbounds)
  exact dif_neg hbounds

theorem eq_or_eq_of_toLower_eq (hd : d.isUpper = true) (h : c.toLower = d.toLower) :
    c = d ∨ c = d.toLower := by
  have hlower : ∀ n : Fin 26, (Char.ofNat (65 + n)).toLower.toNat = 97 + n := by
    decide
  by_cases hc : c.isUpper = true
  · left
    rcases exists_of_isUpper hc with ⟨m, rfl⟩
    rcases exists_of_isUpper hd with ⟨n, rfl⟩
    have hsame : (97 + m : Nat) = 97 + n := by
      rw [← hlower m, ← hlower n, h]
    rw [Nat.add_left_cancel hsame]
  · right
    rw [← h, toLower_of_not_isUpper hc]

theorem upperChar_of_toLower_eq (hd : d.isUpper = true) (h : c.toLower = d.toLower) :
    upperChar c = [d] := by
  have hboth : ∀ n : Fin 26, upperChar (Char.ofNat (65 + n)) = [Char.ofNat (65 + n)] ∧
      upperChar (Char.ofNat (65 + n)).toLower = [Char.ofNat (65 + n)] := by
    decide
  rcases exists_of_isUpper hd with ⟨n, rfl⟩
  rcases eq_or_eq_of_toLower_eq hd h with rfl | rfl
  · exact (hboth n).1
  · exact (hboth n).2

theorem isWordChar_of_toLower_eq (hd : d.isUpper = true) (h : c.toLower = d.toLower) :
    Token.isWordChar c = true := by
  have hboth : ∀ n : Fin 26, Token.isWordChar (Char.ofNat (65 + n)) = true ∧
      Token.isWordChar (Char.ofNat (65 + n)).toLower = true := by
    decide
  rcases exists_of_isUpper hd with ⟨n, rfl⟩
  rcases eq_or_eq_of_toLower_eq hd h with rfl | rfl
  · exact (hboth n).1
  · exact (hboth n).2

end Capitals

/-!
## Words in capitals
-/

theorem sameWord_congr {s v : List Char} (h : sameWord s v = true) (w : List Char) :
    sameWord s w = sameWord v w := by
  rw [sameWord, beq_iff_eq] at h
  rw [sameWord, sameWord, h]

/-- A text of one or more capitals. -/
def isCapitals (w : List Char) : Bool :=
  !w.isEmpty && w.all Char.isUpper

theorem isCapitals_iff {w : List Char} :
    isCapitals w = true ↔ w ≠ [] ∧ ∀ d ∈ w, d.isUpper = true := by
  simp [isCapitals]

theorem upper_of_sameWord {s w : List Char} (h : sameWord s w = true)
    (hw : isCapitals w = true) : upper s = w := by
  rw [sameWord, beq_iff_eq] at h
  replace hw : ∀ d ∈ w, d.isUpper = true := (isCapitals_iff.mp hw).2
  induction s generalizing w with
  | nil =>
      rw [List.map_nil, eq_comm, List.map_eq_nil_iff] at h
      rw [h]
      rfl
  | cons c s ih =>
      cases w with
      | nil =>
          cases h
      | cons d w =>
          rw [List.map_cons, List.map_cons, List.cons.injEq] at h
          rw [List.forall_mem_cons] at hw
          rw [upper_cons, upperChar_of_toLower_eq hw.1 h.1, ih h.2 hw.2]
          rfl

theorem isWordChar_of_sameWord {s w : List Char} (h : sameWord s w = true)
    (hcapitals : isCapitals w = true) : s ≠ [] ∧ ∀ c ∈ s, Token.isWordChar c = true := by
  rcases isCapitals_iff.mp hcapitals with ⟨hne, hw⟩
  rw [sameWord, beq_iff_eq] at h
  constructor
  · rintro rfl
    rw [List.map_nil, eq_comm, List.map_eq_nil_iff] at h
    exact hne h
  · intro c hc
    have hmem : c.toLower ∈ w.map Char.toLower := h ▸ List.mem_map_of_mem hc
    rcases List.mem_map.mp hmem with ⟨d, hd, heq⟩
    exact isWordChar_of_toLower_eq (hw d hd) heq.symm

end Text

/-!
## Keywords
-/

namespace Token

theorem exists_of_isWord {t : Token} {keyword : String} (h : t.isWord keyword = true) :
    ∃ s, t = word s ∧ Text.sameWord s.toList keyword.toList = true := by
  cases t with
  | word s =>
      exact ⟨s, rfl, h⟩
  | quoted q s => cases h
  | operator s => cases h
  | comma => cases h
  | openParen => cases h
  | closeParen => cases h

/-- A token that is one keyword is another exactly if these are the same word. -/
theorem isWord_of_isWord {t : Token} {v : String} (h : t.isWord v = true) (w : String) :
    t.isWord w = Text.sameWord v.toList w.toList := by
  rcases exists_of_isWord h with ⟨s, rfl, hs⟩
  exact Text.sameWord_congr hs w.toList

theorem isWord_eq_false_of_isWord {t : Token} {v w : String} (h : t.isWord v = true)
    (hvw : Text.sameWord v.toList w.toList = false) : t.isWord w = false := by
  rw [isWord_of_isWord h, hvw]

theorem upper_text_of_isWord {t : Token} {v : String} (h : t.isWord v = true)
    (hv : Text.isCapitals v.toList = true) : Text.upper t.text.toList = v.toList := by
  rcases exists_of_isWord h with ⟨s, rfl, hs⟩
  exact Text.upper_of_sameWord hs hv

end Token
end TableQuery
