import Mathlib.Data.List.TakeWhile
import TableQuery.Query.Grammar
import TableQuery.Query.Layout

/-!
# Cutting laid out texts

A blank ends whatever token stands before it, so a text is cut before and after a blank
independently.  Tokens that are laid out with blanks between them are therefore cut into
exactly themselves, and nothing that is cut from any text is more than one token.
-/

namespace TableQuery

@[simp]
theorem ok_bind {ε α β : Type} (a : α) (f : α → Except ε β) : (Except.ok a >>= f) = f a :=
  rfl

@[simp]
theorem error_bind {ε α β : Type} (e : ε) (f : α → Except ε β) :
    (Except.error e >>= f) = .error e :=
  rfl

theorem bind_eq_ok_iff {ε α β : Type} {x : Except ε α} {f : α → Except ε β} {b : β} :
    (x >>= f) = .ok b ↔ ∃ a, x = .ok a ∧ f a = .ok b := by
  cases x with
  | error e =>
      constructor
      · intro h
        cases h
      · rintro ⟨a, ha, _⟩
        cases ha
  | ok a =>
      constructor
      · intro h
        exact ⟨a, rfl, h⟩
      · rintro ⟨a', ha', h⟩
        cases ha'
        exact h

/-!
## Runs of one class
-/

section Runs

variable {α : Type} {p : α → Bool} {run cs : List α}

/-- The list does not go on with something of the class. -/
def StopsAt {α : Type} (p : α → Bool) (cs : List α) : Prop :=
  ∀ c ∈ cs.head?, p c = false

theorem stopsAt_nil (p : α → Bool) : StopsAt p [] := by
  simp [StopsAt]

theorem forall_takeWhile (p : α → Bool) (cs : List α) : ∀ c ∈ cs.takeWhile p, p c = true :=
  fun _ => List.mem_takeWhile_imp

theorem stopsAt_dropWhile (p : α → Bool) (cs : List α) : StopsAt p (cs.dropWhile p) := by
  intro c hc
  have hnot := List.head?_dropWhile_not p cs
  rw [Option.mem_def.mp hc] at hnot
  exact hnot

theorem StopsAt.append (h : StopsAt p cs) {c : α} (hc : p c = false) (rest : List α) :
    StopsAt p (cs ++ c :: rest) := by
  cases cs with
  | nil =>
      intro d hd
      cases hd
      exact hc
  | cons d cs =>
      exact h

theorem takeWhile_run (hrun : ∀ c ∈ run, p c = true) (hstop : StopsAt p cs) :
    (run ++ cs).takeWhile p = run := by
  rw [List.takeWhile_append_of_pos hrun]
  cases cs with
  | nil =>
      simp
  | cons c cs =>
      simp [hstop c rfl]

theorem dropWhile_run (hrun : ∀ c ∈ run, p c = true) (hstop : StopsAt p cs) :
    (run ++ cs).dropWhile p = cs := by
  rw [List.dropWhile_append_of_pos hrun]
  cases cs with
  | nil =>
      rfl
  | cons c cs =>
      simp [hstop c rfl]

theorem eq_of_dropWhile_eq_cons {c : α} {rest : List α} (h : cs.dropWhile p = c :: rest) :
    cs = cs.takeWhile p ++ c :: rest ∧ p c = false := by
  constructor
  · rw [← h, List.takeWhile_append_dropWhile]
  · have hstop := stopsAt_dropWhile p cs
    rw [h] at hstop
    exact hstop c rfl

end Runs

namespace Token

/-!
## Classes of characters
-/

section Classes

variable {c : Char}

theorem ofChar?_of_isBlank (h : Text.isBlank c = true) : Text.Quote.ofChar? c = none := by
  cases hquote : Text.Quote.ofChar? c with
  | none =>
      rfl
  | some q =>
      rw [Text.Quote.ofChar?_eq_some_iff] at hquote
      subst hquote
      cases q <;> cases h

theorem isOperatorChar_of_isBlank (h : Text.isBlank c = true) : isOperatorChar c = false := by
  rw [Bool.eq_false_iff]
  intro hop
  simp only [isOperatorChar, Bool.or_eq_true, decide_eq_true_eq] at hop
  rcases hop with ((rfl | rfl) | rfl) | rfl <;> cases h

theorem isWordChar_of_isBlank (h : Text.isBlank c = true) : isWordChar c = false := by
  simp [isWordChar, h]

theorem isWordChar_iff :
    isWordChar c = true ↔ Text.isBlank c = false ∧ Text.Quote.ofChar? c = none ∧
      punctuation? c = none ∧ isOperatorChar c = false := by
  simp [isWordChar, and_assoc]

theorem isOperatorChar_disjoint (h : isOperatorChar c = true) :
    Text.isBlank c = false ∧ Text.Quote.ofChar? c = none ∧ punctuation? c = none := by
  simp only [isOperatorChar, Bool.or_eq_true, decide_eq_true_eq] at h
  rcases h with ((rfl | rfl) | rfl) | rfl <;> decide

theorem punctuation?_disjoint {t : Token} (h : punctuation? c = some t) :
    Text.isBlank c = false ∧ Text.Quote.ofChar? c = none := by
  unfold punctuation? at h
  split at h
  · subst c
    decide
  · split at h
    · subst c
      decide
    · split at h
      · subst c
        decide
      · cases h

theorem isBlank_quote (q : Text.Quote) : Text.isBlank q.char = false := by
  cases q <;> decide

theorem checkAfterQuote_append_blank (h : Text.isBlank c = true) {cs : List Char}
    (hcheck : checkAfterQuote cs = .ok ()) (rest : List Char) :
    checkAfterQuote (cs ++ c :: rest) = .ok () := by
  cases cs with
  | nil =>
      simp [checkAfterQuote, ofChar?_of_isBlank h, isWordChar_of_isBlank h]
  | cons d cs =>
      exact hcheck

theorem checkAfterWord_append_blank (h : Text.isBlank c = true) {cs : List Char}
    (hcheck : checkAfterWord cs = .ok ()) (rest : List Char) :
    checkAfterWord (cs ++ c :: rest) = .ok () := by
  cases cs with
  | nil =>
      simp [checkAfterWord, ofChar?_of_isBlank h]
  | cons d cs =>
      exact hcheck

end Classes

/-!
## One token off the front
-/

section Step

variable {c : Char} {run cs : List Char}

@[simp]
theorem scan_nil : scan [] = .ok [] := by
  rw [scan]

theorem scan_blank (h : Text.isBlank c = true) (cs : List Char) :
    scan (c :: cs) = scan cs := by
  rw [scan, if_pos h]

theorem scan_gap {gap : List Char} (h : ∀ c ∈ gap, Text.isBlank c = true) (cs : List Char) :
    scan (gap ++ cs) = scan cs := by
  induction gap with
  | nil =>
      rfl
  | cons c gap ih =>
      rw [List.forall_mem_cons] at h
      rw [List.cons_append, scan_blank h.1, ih h.2]

theorem scan_quote (q : Text.Quote) (cs : List Char) :
    scan (q.char :: cs) = takeQuoted q cs >>= fun parts => checkAfterQuote parts.2 >>= fun _ =>
      (scan parts.2).map (quoted q (String.ofList parts.1) :: ·) := by
  rw [scan, if_neg (by simp [isBlank_quote])]
  split
  · rename_i q' hq
    rw [Text.Quote.ofChar?_char, Option.some_inj] at hq
    subst hq
    split
    · rename_i heq
      rw [heq]
      rfl
    · rename_i inside rest heq
      rw [heq, ok_bind]
      cases checkAfterQuote rest with
      | error fault =>
          rfl
      | ok _ =>
          cases scan rest <;> rfl
  · rename_i hq
    rw [Text.Quote.ofChar?_char] at hq
    cases hq

theorem scan_quoted (q : Text.Quote) (inside : List Char) (h : checkAfterQuote cs = .ok ()) :
    scan (q.char :: (q.escape inside ++ q.char :: cs)) =
      (scan cs).map (quoted q (String.ofList inside) :: ·) := by
  rw [scan_quote, takeQuoted_escape, ok_bind, h, ok_bind]

theorem scan_punctuation {t : Token} (h : punctuation? c = some t) (cs : List Char) :
    scan (c :: cs) = (scan cs).map (t :: ·) := by
  rcases punctuation?_disjoint h with ⟨hblank, hquote⟩
  rw [scan, if_neg (by simp [hblank])]
  simp only [hquote, h]
  cases scan cs <;> rfl

theorem scan_operator (hc : isOperatorChar c = true)
    (hrun : ∀ d ∈ run, isOperatorChar d = true) (hstop : StopsAt isOperatorChar cs) :
    scan (c :: (run ++ cs)) = (scan cs).map (operator (String.ofList (c :: run)) :: ·) := by
  rcases isOperatorChar_disjoint hc with ⟨hblank, hquote, hpunctuation⟩
  rw [scan, if_neg (by simp [hblank])]
  simp only [hquote, hpunctuation, hc, if_true, takeWhile_run hrun hstop,
    dropWhile_run hrun hstop]
  cases scan cs <;> rfl

theorem scan_wordChar (hc : isWordChar c = true) (hrun : ∀ d ∈ run, isWordChar d = true)
    (hstop : StopsAt isWordChar cs) :
    scan (c :: (run ++ cs)) = checkAfterWord cs >>= fun _ =>
      (scan cs).map (word (String.ofList (c :: run)) :: ·) := by
  rcases isWordChar_iff.mp hc with ⟨hblank, hquote, hpunctuation, hoperator⟩
  rw [scan, if_neg (by simp [hblank])]
  simp only [hquote, hpunctuation, hoperator, Bool.false_eq_true, if_false,
    takeWhile_run hrun hstop, dropWhile_run hrun hstop]
  cases checkAfterWord cs with
  | error fault =>
      rfl
  | ok _ =>
      cases scan cs <;> rfl

theorem scan_word (hc : isWordChar c = true) (hrun : ∀ d ∈ run, isWordChar d = true)
    (hstop : StopsAt isWordChar cs) (hcheck : checkAfterWord cs = .ok ()) :
    scan (c :: (run ++ cs)) = (scan cs).map (word (String.ofList (c :: run)) :: ·) := by
  rw [scan_wordChar hc hrun hstop, hcheck, ok_bind]

end Step

/-!
## Derivations
-/

/-- How a text is cut: what stands at its front is skipped or is a token, and the rest is
cut in turn. -/
inductive Cut : List Char → List Token → Prop where
  | nil : Cut [] []
  | blank {c : Char} {cs : List Char} {ts : List Token} :
      Text.isBlank c = true → Cut cs ts → Cut (c :: cs) ts
  | quoted (q : Text.Quote) (inside : List Char) {cs : List Char} {ts : List Token} :
      checkAfterQuote cs = .ok () → Cut cs ts →
        Cut (q.char :: (q.escape inside ++ q.char :: cs)) (quoted q (String.ofList inside) :: ts)
  | punctuation {c : Char} {t : Token} {cs : List Char} {ts : List Token} :
      punctuation? c = some t → Cut cs ts → Cut (c :: cs) (t :: ts)
  | operator {c : Char} {run cs : List Char} {ts : List Token} :
      isOperatorChar c = true → (∀ d ∈ run, isOperatorChar d = true) →
        StopsAt isOperatorChar cs → Cut cs ts →
          Cut (c :: (run ++ cs)) (operator (String.ofList (c :: run)) :: ts)
  | word {c : Char} {run cs : List Char} {ts : List Token} :
      isWordChar c = true → (∀ d ∈ run, isWordChar d = true) → StopsAt isWordChar cs →
        checkAfterWord cs = .ok () → Cut cs ts →
          Cut (c :: (run ++ cs)) (word (String.ofList (c :: run)) :: ts)

/-- The character, right behind the token, is seen to be no part of it. -/
def EndsAt (c : Char) : Token → Prop
  | word _ => isWordChar c = false ∧ Text.Quote.ofChar? c = none
  | quoted _ _ => isWordChar c = false ∧ Text.Quote.ofChar? c = none
  | operator _ => isOperatorChar c = false
  | comma => True
  | openParen => True
  | closeParen => True

theorem endsAt_of_isBlank {c : Char} (h : Text.isBlank c = true) (t : Token) : t.EndsAt c := by
  have hword := And.intro (isWordChar_of_isBlank h) (ofChar?_of_isBlank h)
  cases t with
  | word s => exact hword
  | quoted q s => exact hword
  | operator s => exact isOperatorChar_of_isBlank h
  | comma => trivial
  | openParen => trivial
  | closeParen => trivial

theorem forall_getLast?_of_cons {α : Type} {P : α → Prop} {a : α} {as : List α}
    (h : ∀ b ∈ (a :: as).getLast?, P b) : ∀ b ∈ as.getLast?, P b := by
  cases as with
  | nil =>
      simp
  | cons b as =>
      exact h

/-- Before a character that ends the last token a text is cut as if it ended there. -/
theorem Cut.scan_append_cons {pre : List Char} {ts : List Token} (h : Cut pre ts) {c : Char}
    (hend : ∀ t ∈ ts.getLast?, t.EndsAt c) (rest : List Char) :
    scan (pre ++ c :: rest) = (scan (c :: rest)).map (ts ++ ·) := by
  have hmap : ∀ (t : Token) (us : List Token), ((scan (c :: rest)).map (us ++ ·)).map (t :: ·) =
      (scan (c :: rest)).map (t :: us ++ ·) := by
    intro t us
    cases scan (c :: rest) <;> rfl
  -- Only the last token sees the character; any other is followed by what it was followed by.
  induction h with
  | nil =>
      rw [List.nil_append]
      cases scan (c :: rest) <;> rfl
  | blank hblank _ ih =>
      rw [List.cons_append, scan_blank hblank, ih hend]
  | @quoted q inside cs ts hcheck hcut ih =>
      have hcheck' : checkAfterQuote (cs ++ c :: rest) = .ok () := by
        cases cs with
        | nil =>
            cases hcut
            rcases hend _ rfl with ⟨hword, hquote⟩
            simp [checkAfterQuote, hword, hquote]
        | cons d cs =>
            exact hcheck
      rw [List.cons_append, List.append_assoc, List.cons_append, scan_quoted q inside hcheck',
        ih (forall_getLast?_of_cons hend), hmap]
  | punctuation hpunctuation _ ih =>
      rw [List.cons_append, scan_punctuation hpunctuation, ih (forall_getLast?_of_cons hend), hmap]
  | @operator d run cs ts hfirst hrun hstop hcut ih =>
      have hstop' : StopsAt isOperatorChar (cs ++ c :: rest) := by
        cases cs with
        | nil =>
            cases hcut
            exact hstop.append (hend _ rfl) rest
        | cons e cs =>
            exact hstop
      rw [List.cons_append, List.append_assoc, scan_operator hfirst hrun hstop',
        ih (forall_getLast?_of_cons hend), hmap]
  | @word d run cs ts hfirst hrun hstop hcheck hcut ih =>
      have hbehind : StopsAt isWordChar (cs ++ c :: rest) ∧
          checkAfterWord (cs ++ c :: rest) = .ok () := by
        cases cs with
        | nil =>
            cases hcut
            rcases hend _ rfl with ⟨hword, hquote⟩
            exact ⟨hstop.append hword rest, by simp [checkAfterWord, hquote]⟩
        | cons e cs =>
            exact ⟨hstop, hcheck⟩
      rw [List.cons_append, List.append_assoc, scan_word hfirst hrun hbehind.1 hbehind.2,
        ih (forall_getLast?_of_cons hend), hmap]

/-- Before a blank a text is cut as if it ended there. -/
theorem Cut.scan_append_blank {pre : List Char} {ts : List Token} (h : Cut pre ts) {c : Char}
    (hc : Text.isBlank c = true) (rest : List Char) :
    scan (pre ++ c :: rest) = (scan rest).map (ts ++ ·) := by
  rw [h.scan_append_cons (fun t _ => endsAt_of_isBlank hc t), scan_blank hc]

theorem Cut.scan_eq {cs : List Char} {ts : List Token} (h : Cut cs ts) : scan cs = .ok ts := by
  induction h with
  | nil =>
      exact scan_nil
  | blank hblank _ ih =>
      rw [scan_blank hblank, ih]
  | quoted q inside hcheck _ ih =>
      rw [scan_quoted q inside hcheck, ih]
      rfl
  | punctuation hpunctuation _ ih =>
      rw [scan_punctuation hpunctuation, ih]
      rfl
  | operator hfirst hrun hstop _ ih =>
      rw [scan_operator hfirst hrun hstop, ih]
      rfl
  | word hfirst hrun hstop hcheck _ ih =>
      rw [scan_word hfirst hrun hstop hcheck, ih]
      rfl

theorem cut_of_scan {cs : List Char} {ts : List Token} (h : scan cs = .ok ts) : Cut cs ts := by
  fun_induction scan cs generalizing ts with
  | case1 =>
      cases h
      exact Cut.nil
  | case2 c cs hblank ih =>
      exact Cut.blank hblank (ih h)
  | case3 c cs hblank q hquote fault hq =>
      cases h
  | case4 c cs hblank q hquote inside rest hq ih =>
      rcases bind_eq_ok_iff.mp h with ⟨_, hcheck, h⟩
      rcases bind_eq_ok_iff.mp h with ⟨us, hus, h⟩
      cases h
      rw [Text.Quote.ofChar?_eq_some_iff] at hquote
      rw [hquote, eq_escape_of_takeQuoted hq]
      exact Cut.quoted q inside hcheck (ih hus)
  | case5 c cs hblank hquote t ht ih =>
      rcases bind_eq_ok_iff.mp h with ⟨us, hus, h⟩
      cases h
      exact Cut.punctuation ht (ih hus)
  | case6 c cs hblank hquote hpunctuation hoperator ih =>
      rcases bind_eq_ok_iff.mp h with ⟨us, hus, h⟩
      cases h
      have hcut := Cut.operator hoperator (forall_takeWhile isOperatorChar cs)
        (stopsAt_dropWhile isOperatorChar cs) (ih hus)
      rwa [List.takeWhile_append_dropWhile] at hcut
  | case7 c cs hblank hquote hpunctuation hoperator rest =>
      rename_i ih
      rcases bind_eq_ok_iff.mp h with ⟨_, hcheck, h⟩
      rcases bind_eq_ok_iff.mp h with ⟨us, hus, h⟩
      cases h
      have hword : isWordChar c = true :=
        isWordChar_iff.mpr ⟨by simpa using hblank, hquote, hpunctuation, by simpa using hoperator⟩
      have hcut := Cut.word hword (forall_takeWhile isWordChar cs)
        (stopsAt_dropWhile isWordChar cs) hcheck (ih hus)
      rwa [List.takeWhile_append_dropWhile] at hcut

/-!
## Tokens as they are cut and laid out
-/

theorem wellFormed_of_punctuation? {c : Char} {t : Token} (h : punctuation? c = some t) :
    t.WellFormed := by
  unfold punctuation? at h
  split at h
  · cases h
    trivial
  · split at h
    · cases h
      trivial
    · split at h
      · cases h
        trivial
      · cases h

theorem Cut.wellFormed {cs : List Char} {ts : List Token} (h : Cut cs ts) :
    ∀ t ∈ ts, t.WellFormed := by
  induction h with
  | nil =>
      simp
  | blank _ _ ih =>
      exact ih
  | quoted q inside _ _ ih =>
      exact List.forall_mem_cons.mpr ⟨trivial, ih⟩
  | punctuation hpunctuation _ ih =>
      exact List.forall_mem_cons.mpr ⟨wellFormed_of_punctuation? hpunctuation, ih⟩
  | operator hfirst hrun _ _ ih =>
      refine List.forall_mem_cons.mpr ⟨?_, ih⟩
      simpa [WellFormed] using ⟨hfirst, hrun⟩
  | word hfirst hrun _ _ _ ih =>
      refine List.forall_mem_cons.mpr ⟨?_, ih⟩
      simpa [WellFormed] using ⟨hfirst, hrun⟩

/-- A token alone is cut into itself. -/
theorem cut_write {t : Token} (h : t.WellFormed) : Cut t.write [t] := by
  cases t with
  | word s =>
      rcases h with ⟨hne, hall⟩
      rcases List.exists_cons_of_ne_nil hne with ⟨c, run, hs⟩
      rw [hs, List.forall_mem_cons] at hall
      have hcut := Cut.word hall.1 hall.2 (stopsAt_nil isWordChar) rfl Cut.nil
      rw [← hs, String.ofList_toList] at hcut
      rw [show (word s).write = s.toList from rfl, hs]
      simpa using hcut
  | quoted q s =>
      have hcut := Cut.quoted q s.toList (show checkAfterQuote [] = .ok () from rfl) Cut.nil
      rwa [String.ofList_toList] at hcut
  | operator s =>
      rcases h with ⟨hne, hall⟩
      rcases List.exists_cons_of_ne_nil hne with ⟨c, run, hs⟩
      rw [hs, List.forall_mem_cons] at hall
      have hcut := Cut.operator hall.1 hall.2 (stopsAt_nil isOperatorChar) Cut.nil
      rw [← hs, String.ofList_toList] at hcut
      rw [show (operator s).write = s.toList from rfl, hs]
      simpa using hcut
  | comma =>
      exact Cut.punctuation rfl Cut.nil
  | openParen =>
      exact Cut.punctuation rfl Cut.nil
  | closeParen =>
      exact Cut.punctuation rfl Cut.nil

theorem scan_write_gap {t : Token} (h : t.WellFormed) {gap : List Char} (hgap : IsGap gap)
    (cs : List Char) : scan (t.write ++ gap ++ cs) = (scan cs).map (t :: ·) := by
  rcases hgap with ⟨hne, hblank⟩
  rcases List.exists_cons_of_ne_nil hne with ⟨c, rest, rfl⟩
  rw [List.forall_mem_cons] at hblank
  rw [List.append_assoc, List.cons_append, (cut_write h).scan_append_blank hblank.1,
    scan_gap hblank.2]
  rfl

theorem scan_of_laid {ts : List Token} {cs : List Char} (h : Laid ts cs)
    (hts : ∀ t ∈ ts, t.WellFormed) : scan cs = .ok ts := by
  induction h with
  | nil =>
      exact scan_nil
  | last t =>
      exact (cut_write (hts t List.mem_cons_self)).scan_eq
  | cons hgap _ ih =>
      rw [List.forall_mem_cons] at hts
      rw [scan_write_gap hts.1 hgap, ih hts.2]
      rfl

theorem scan_append_gap {cs gap : List Char} {ts : List Token} (h : scan cs = .ok ts)
    (hgap : ∀ c ∈ gap, Text.isBlank c = true) : scan (cs ++ gap) = .ok ts := by
  cases gap with
  | nil =>
      rwa [List.append_nil]
  | cons c gap =>
      rw [List.forall_mem_cons] at hgap
      rw [(cut_of_scan h).scan_append_blank hgap.1, ← List.append_nil gap, scan_gap hgap.2,
        scan_nil]
      simp [Except.map]

/-- The tokens with one space between any two. -/
def spaced (ts : List Token) : List Char :=
  [' '].intercalate (ts.map write)

theorem laid_spaced (ts : List Token) : Laid ts (spaced ts) := by
  induction ts with
  | nil =>
      exact Laid.nil
  | cons t ts ih =>
      cases ts with
      | nil =>
          have hlast := Laid.last t
          simpa [spaced] using hlast
      | cons u ts =>
          have hgap : IsGap [' '] := ⟨by simp, List.forall_mem_singleton.mpr rfl⟩
          have hcons := Laid.cons hgap ih (t := t)
          simpa [spaced, List.intercalate_cons_cons] using hcons

end Token

/-!
## Texts that end in a semicolon
-/

theorem Token.scan_trimLeft (cs : List Char) : scan (Text.trimLeft cs) = scan cs := by
  conv => rhs; rw [← List.takeWhile_append_dropWhile (p := Text.isBlank) (l := cs)]
  rw [scan_gap (forall_takeWhile Text.isBlank cs)]
  rfl

namespace Query

theorem strip_append_semicolon (cs : List Char) : strip (cs ++ [';']) = Text.trimLeft cs := by
  have hsemicolon : Text.isBlank ';' = false := by decide
  rw [strip, Text.trim, Text.trimLeft_append_cons hsemicolon,
    Text.trimRight_append_cons hsemicolon]
  simp [Text.trimRight]

/-- A semicolon at the end is not part of the query. -/
theorem parse_append_semicolon {cs : List Char} {ts : List Token} (h : Token.scan cs = .ok ts) :
    parse (String.ofList (cs ++ [';'])) = ofTokens ts := by
  rw [parse, String.toList_ofList, strip_append_semicolon, Token.scan_trimLeft, h]

theorem parse_eq_ok_iff {text : String} {q : Query} :
    parse text = .ok q ↔
      ∃ ts, Token.scan (strip text.toList) = .ok ts ∧ ofTokens ts = .ok q := by
  unfold parse
  cases Token.scan (strip text.toList) with
  | error fault =>
      simp
  | ok ts =>
      simp

end Query
end TableQuery
