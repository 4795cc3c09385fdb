import TableQuery.Proofs.Query.Names

/-!
# Tokens as texts

Outside the grammar a token is a text: a word, a run of operators, a single mark or a quoted
text.  Texts of these four kinds can be laid out and are cut into themselves, and nothing else
is ever cut from a text.  Written one behind the other, the tokens of a text are the text
without the blanks outside its quotes.
-/

namespace TableQuery
namespace Token

/-- The texts of the tokens of a text. -/
def texts (cs : List Char) : Except TokenFault (List String) :=
  (scan cs).map (List.map text)

theorem texts_eq_ok_iff {cs : List Char} {pieces : List String} :
    texts cs = .ok pieces ↔ ∃ ts, scan cs = .ok ts ∧ ts.map text = pieces := by
  unfold texts
  cases scan cs with
  | error fault =>
      simp [Except.map]
  | ok ts =>
      simp [Except.map]

/-!
## The four kinds of tokens
-/

/-- The text is one token. -/
inductive IsToken : List Char → Prop where
  | word {cs : List Char} : cs ≠ [] →
      (∀ c ∈ cs, Text.isBlank c = false ∧
        c ∉ ['\x27', '\x22', ',', '(', ')', '<', '>', '=', '!']) → IsToken cs
  | operator {cs : List Char} : cs ≠ [] → (∀ c ∈ cs, c ∈ ['<', '>', '=', '!']) → IsToken cs
  | mark {c : Char} : c ∈ [',', '(', ')'] → IsToken [c]
  | quoted (q : Text.Quote) (inside : List Char) : IsToken (q.enclose inside)

theorem isOperatorChar_iff {c : Char} :
    isOperatorChar c = true ↔ c ∈ ['<', '>', '=', '!'] := by
  simp [isOperatorChar, or_assoc]

theorem ofChar?_eq_none_iff {c : Char} :
    Text.Quote.ofChar? c = none ↔ c ∉ ['\x27', '\x22'] := by
  unfold Text.Quote.ofChar?
  split
  · simp_all
  · split <;> simp_all

theorem punctuation?_eq_none_iff {c : Char} :
    punctuation? c = none ↔ c ∉ [',', '(', ')'] := by
  unfold punctuation?
  split
  · simp_all
  · split
    · simp_all
    · split <;> simp_all

theorem isWordChar_iff_not_mem {c : Char} :
    isWordChar c = true ↔ Text.isBlank c = false ∧
      c ∉ ['\x27', '\x22', ',', '(', ')', '<', '>', '=', '!'] := by
  have hoperator : isOperatorChar c = false ↔ c ∉ ['<', '>', '=', '!'] := by
    rw [← isOperatorChar_iff, Bool.not_eq_true]
  rw [isWordChar_iff, ofChar?_eq_none_iff, punctuation?_eq_none_iff, hoperator,
    ← not_or, ← not_or, ← List.mem_append, ← List.mem_append]
  rfl

theorem isToken_text {t : Token} (h : t.WellFormed) : IsToken t.text.toList := by
  cases t with
  | word s =>
      exact IsToken.word h.1 fun c hc => isWordChar_iff_not_mem.mp (h.2 c hc)
  | quoted q s =>
      have hquoted := IsToken.quoted q s.toList
      rwa [text, String.toList_ofList]
  | operator s =>
      exact IsToken.operator h.1 fun c hc => isOperatorChar_iff.mp (h.2 c hc)
  | comma =>
      exact IsToken.mark (by decide)
  | openParen =>
      exact IsToken.mark (by decide)
  | closeParen =>
      exact IsToken.mark (by decide)

theorem exists_text_of_isToken {s : String} (h : IsToken s.toList) :
    ∃ t : Token, t.WellFormed ∧ t.text = s := by
  generalize hs : s.toList = cs at h
  cases h with
  | word hne hall =>
      subst hs
      exact ⟨.word s, ⟨hne, fun c hc => isWordChar_iff_not_mem.mpr (hall c hc)⟩, rfl⟩
  | operator hne hall =>
      subst hs
      exact ⟨.operator s, ⟨hne, fun c hc => isOperatorChar_iff.mpr (hall c hc)⟩, rfl⟩
  | @mark c hc =>
      have hs' : s = String.ofList [c] := by
        rw [← hs, String.ofList_toList]
      simp only [List.mem_cons, List.not_mem_nil, or_false] at hc
      rcases hc with rfl | rfl | rfl
      · exact ⟨.comma, trivial, hs'.symm⟩
      · exact ⟨.openParen, trivial, hs'.symm⟩
      · exact ⟨.closeParen, trivial, hs'.symm⟩
  | quoted q inside =>
      refine ⟨.quoted q (String.ofList inside), trivial, ?_⟩
      rw [text, String.toList_ofList, ← hs, String.ofList_toList]

/-!
## Tokens as they are written
-/

/-- The text with escapes inside, if it stands in quotes. -/
def spell (cs : List Char) : List Char :=
  match Text.Quote.single.inside? cs, Text.Quote.double.inside? cs with
  | some inside, _ => Text.Quote.single.enclose (Text.Quote.single.escape inside)
  | none, some inside => Text.Quote.double.enclose (Text.Quote.double.escape inside)
  | none, none => cs

theorem spell_enclose (q : Text.Quote) (inside : List Char) :
    spell (q.enclose inside) = q.enclose (q.escape inside) := by
  cases q with
  | single =>
      simp [spell]
  | double =>
      have hsingle := Text.Quote.inside?_enclose_of_ne (p := .single) (q := .double) (by decide)
      simp [spell, hsingle]

theorem spell_of_head {cs : List Char} (h : cs.head?.bind Text.Quote.ofChar? = none) :
    spell cs = cs := by
  simp [spell, Text.Quote.inside?_of_head _ h]

theorem spell_text {t : Token} (h : t.WellFormed) : spell t.text.toList = t.write := by
  by_cases hquoted : ∃ q s, t = quoted q s
  · rcases hquoted with ⟨q, s, rfl⟩
    rw [text, String.toList_ofList, spell_enclose]
    rfl
  · rw [spell_of_head (ofChar?_head_text h hquoted), write_eq_text hquoted]

/-!
## Texts laid out
-/

/-- The texts in which the pieces stand in order, with a gap between any two. -/
inductive LaidOut : List (List Char) → List Char → Prop where
  | nil : LaidOut [] []
  | last (piece : List Char) : LaidOut [piece] piece
  | cons {first second : List Char} {pieces : List (List Char)} {gap cs : List Char} :
      IsGap gap → LaidOut (second :: pieces) cs →
        LaidOut (first :: second :: pieces) (first ++ gap ++ cs)

theorem laid_of_laidOut {ts : List Token} {cs : List Char} (h : LaidOut (ts.map write) cs) :
    Laid ts cs := by
  induction ts generalizing cs with
  | nil =>
      cases h
      exact Laid.nil
  | cons t ts ih =>
      cases ts with
      | nil =>
          cases h
          exact Laid.last t
      | cons u ts =>
          cases h with
          | cons hgap hrest =>
              exact Laid.cons hgap (ih hrest)

theorem exists_tokens {pieces : List String} (h : ∀ s ∈ pieces, IsToken s.toList) :
    ∃ ts : List Token, (∀ t ∈ ts, t.WellFormed) ∧ ts.map text = pieces := by
  induction pieces with
  | nil =>
      exact ⟨[], by simp, rfl⟩
  | cons s pieces ih =>
      rw [List.forall_mem_cons] at h
      rcases exists_text_of_isToken h.1 with ⟨t, ht, hs⟩
      rcases ih h.2 with ⟨ts, hts, hpieces⟩
      refine ⟨t :: ts, List.forall_mem_cons.mpr ⟨ht, hts⟩, ?_⟩
      rw [List.map_cons, hs, hpieces]

theorem map_spell_text {ts : List Token} (h : ∀ t ∈ ts, t.WellFormed) :
    (ts.map text).map (fun s => spell s.toList) = ts.map write := by
  rw [List.map_map]
  exact List.map_congr_left fun t ht => spell_text (h t ht)

/-- Any tokens, laid out with blanks between them and around them, are what is cut from the
layout, and whatever is cut from any text is a token. -/
theorem texts_laidOut :
    (∀ (pieces : List String) (before body after : List Char),
      (∀ s ∈ pieces, IsToken s.toList) →
      LaidOut (pieces.map fun s => spell s.toList) body →
      (∀ c ∈ before ++ after, Text.isBlank c = true) →
      texts (before ++ body ++ after) = .ok pieces) ∧
    ∀ (cs : List Char) (pieces : List String), texts cs = .ok pieces →
      ∀ s ∈ pieces, IsToken s.toList := by
  constructor
  · intro pieces before body after hpieces hbody hblank
    rw [List.forall_mem_append] at hblank
    rcases exists_tokens hpieces with ⟨ts, hts, rfl⟩
    rw [map_spell_text hts] at hbody
    have hscan := scan_of_laid (laid_of_laidOut hbody) hts
    rw [texts_eq_ok_iff]
    refine ⟨ts, ?_, rfl⟩
    rw [List.append_assoc, scan_gap hblank.1]
    exact scan_append_gap hscan hblank.2
  · intro cs pieces h s hs
    rcases texts_eq_ok_iff.mp h with ⟨ts, hscan, rfl⟩
    rcases List.mem_map.mp hs with ⟨t, ht, rfl⟩
    exact isToken_text ((cut_of_scan hscan).wellFormed t ht)

/-- A literal that ends in a backslash and holds its own quote and the other one, right behind
an operator, and an empty literal at the end. -/
theorem texts_laidOut_literals :
    let pieces := ["a", "!=", "'\"it's\\'", "\"\""]
    let spelled := ["a", "!=", "'\"it\\'s\\\\'", "\"\""].map String.toList
    let body := "a\t!= '\"it\\'s\\\\'\u3000 \"\"".toList
    (∀ s ∈ pieces, IsToken s.toList) ∧ (pieces.map fun s => spell s.toList) = spelled ∧
      LaidOut spelled body ∧ texts (" ".toList ++ body ++ "\n".toList) = .ok pieces ∧
      ∀ s ∈ pieces, IsToken s.toList := by
  intro pieces spelled body
  have hword : IsToken ['a'] :=
    IsToken.word (List.cons_ne_nil _ _) (List.forall_mem_singleton.mpr (by decide))
  have hoperator : IsToken ['!', '='] :=
    IsToken.operator (List.cons_ne_nil _ _) (by simp)
  have hpieces : ∀ s ∈ pieces, IsToken s.toList := by
    intro s hs
    simp only [pieces, List.mem_cons, List.not_mem_nil, or_false] at hs
    rcases hs with rfl | rfl | rfl | rfl
    · exact hword
    · exact hoperator
    · exact IsToken.quoted .single "\"it's\\".toList
    · exact IsToken.quoted .double []
  have hspelled : (pieces.map fun s => spell s.toList) = spelled := by decide
  have htab : IsGap ['\t'] := ⟨List.cons_ne_nil _ _, List.all_eq_true.mp rfl⟩
  have hspace : IsGap [' '] := ⟨List.cons_ne_nil _ _, List.all_eq_true.mp rfl⟩
  have hwide : IsGap ['\u3000', ' '] := ⟨List.cons_ne_nil _ _, List.all_eq_true.mp rfl⟩
  have hbody : LaidOut spelled body :=
    LaidOut.cons htab (LaidOut.cons hspace (LaidOut.cons hwide (LaidOut.last _)))
  have hblank : ∀ c ∈ " ".toList ++ "\n".toList, Text.isBlank c = true :=
    List.all_eq_true.mp rfl
  have htexts : texts (" ".toList ++ body ++ "\n".toList) = .ok pieces :=
    texts_laidOut.1 pieces _ body _ hpieces (hspelled ▸ hbody) hblank
  exact ⟨hpieces, hspelled, hbody, htexts, texts_laidOut.2 _ pieces htexts⟩

/-!
## Nothing lost and nothing invented
-/

theorem squeeze_escape (q : Text.Quote) (inside rest : List Char) :
    squeeze (some q) (q.escape inside ++ q.char :: rest) =
      q.escape inside ++ q.char :: squeeze none rest := by
  induction inside with
  | nil =>
      cases q <;> rfl
  | cons c inside ih =>
      rw [Text.Quote.escape_cons]
      by_cases hc : (c = q.char || c = '\\') = true
      · rw [if_pos hc]
        simp only [List.cons_append, List.nil_append, squeeze]
        rw [ih]
      · rw [if_neg hc]
        have hne : c ≠ q.char ∧ c ≠ '\\' := by
          simpa using hc
        simp only [List.cons_append, List.nil_append]
        rw [squeeze.eq_4 q c _ fun _ _ h => absurd h hne.2, if_neg hne.1, ih]

theorem squeeze_run {run : List Char}
    (h : ∀ c ∈ run, Text.isBlank c = false ∧ Text.Quote.ofChar? c = none) (rest : List Char) :
    squeeze none (run ++ rest) = run ++ squeeze none rest := by
  induction run with
  | nil =>
      rfl
  | cons c run ih =>
      rw [List.forall_mem_cons] at h
      rw [List.cons_append, squeeze, if_neg (by simp [h.1.1]), h.1.2, ih h.2]
      rfl

theorem write_of_punctuation? {c : Char} {t : Token} (h : punctuation? c = some t) :
    t.write = [c] := by
  unfold punctuation? at h
  split at h
  · cases h
    subst c
    rfl
  · split at h
    · cases h
      subst c
      rfl
    · split at h
      · cases h
        subst c
        rfl
      · cases h

theorem Cut.flatMap_write {cs : List Char} {ts : List Token} (h : Cut cs ts) :
    ts.flatMap write = squeeze none cs := by
  induction h with
  | nil =>
      rfl
  | blank hblank _ ih =>
      rw [squeeze_blank hblank, ih]
  | @quoted q inside cs ts _ _ ih =>
      have hquote : squeeze none (q.char :: (q.escape inside ++ q.char :: cs)) =
          q.char :: squeeze (some q) (q.escape inside ++ q.char :: cs) := by
        rw [squeeze, if_neg (by simp [isBlank_quote]), Text.Quote.ofChar?_char]
      rw [hquote, squeeze_escape, List.flatMap_cons, ih]
      simp [write, Text.Quote.enclose]
  | @punctuation c t cs ts hpunctuation _ ih =>
      have hclass := punctuation?_disjoint hpunctuation
      have hrun := squeeze_run (List.forall_mem_singleton.mpr hclass) cs
      rw [List.flatMap_cons, ih, write_of_punctuation? hpunctuation]
      exact hrun.symm
  | @operator c run cs ts hfirst hrun _ _ ih =>
      have hclass : ∀ d ∈ c :: run, Text.isBlank d = false ∧ Text.Quote.ofChar? d = none := by
        intro d hd
        have hall : ∀ d ∈ c :: run, isOperatorChar d = true :=
          List.forall_mem_cons.mpr ⟨hfirst, hrun⟩
        have hdisjoint := isOperatorChar_disjoint (hall d hd)
        exact ⟨hdisjoint.1, hdisjoint.2.1⟩
      rw [← List.cons_append, squeeze_run hclass, List.flatMap_cons, ih]
      simp [write, text]
  | @word c run cs ts hfirst hrun _ _ _ ih =>
      have hclass : ∀ d ∈ c :: run, Text.isBlank d = false ∧ Text.Quote.ofChar? d = none := by
        intro d hd
        have hall : ∀ d ∈ c :: run, isWordChar d = true :=
          List.forall_mem_cons.mpr ⟨hfirst, hrun⟩
        have hword := isWordChar_iff.mp (hall d hd)
        exact ⟨hword.1, hword.2.1⟩
      rw [← List.cons_append, squeeze_run hclass, List.flatMap_cons, ih]
      simp [write, text]

/-- The tokens of a text, as they are written, are all of the text but the blanks outside its
quotes. -/
theorem flatMap_spell_eq_squeeze {cs : List Char} {pieces : List String}
    (h : texts cs = .ok pieces) :
    (pieces.flatMap fun s => spell s.toList) = squeeze none cs := by
  rcases texts_eq_ok_iff.mp h with ⟨ts, hscan, rfl⟩
  have hcut := cut_of_scan hscan
  rw [List.flatMap_def, map_spell_text hcut.wellFormed, ← List.flatMap_def, hcut.flatMap_write]

/-- Marks without blanks around them, and blanks and escapes within quotes. -/
theorem flatMap_spell_eq_squeeze_call :
    let text := " COUNT(*) , x>= 'a \\'b\\\\' ".toList
    let pieces := ["COUNT", "(", "*", ")", ",", "x", ">=", "'a 'b\\'"]
    texts text = .ok pieces ∧
      (pieces.flatMap fun s => spell s.toList) = squeeze none text ∧
      squeeze none text = "COUNT(*),x>='a \\'b\\\\'".toList := by
  intro text pieces
  have htexts : texts text = .ok pieces := by decide +kernel
  exact ⟨htexts, flatMap_spell_eq_squeeze htexts, by decide⟩

end Token
end TableQuery
