import Mathlib.Data.List.Induction
import TableQuery.Proofs.Query.TokenTexts

/-!
# Blanks between tokens

Outside quotes a blank puts the scanner back to where it began, so a text is cut before and
behind a gap as if each part stood alone, and faults of either part are kept.  Which blanks a
gap is made of, and whether any stand around the whole text, is therefore never seen; nor is
one semicolon behind a text that does not end in one.
-/

namespace TableQuery
namespace Token

/-!
## Faults of literals
-/

section Literals

variable {q : Text.Quote} {fault : TokenFault} {cs rest : List Char}

/-- A text goes on with blanks in such a way that its fault stays: behind a blank anything may
stand, but an open literal is left open. -/
structure KeepsFault (fault : TokenFault) (rest : List Char) : Prop where
  begins : ∀ c ∈ rest.head?, Text.isBlank c = true
  closesNone : fault = .unclosedQuote → ∀ c ∈ rest, Text.isBlank c = true

theorem ne_of_isBlank {c : Char} (h : Text.isBlank c = true) (q : Text.Quote) :
    c ≠ q.char ∧ c ≠ '\\' := by
  constructor
  · intro hquote
    rw [hquote, isBlank_quote] at h
    cases h
  · intro hslash
    rw [hslash] at h
    cases h

theorem takeQuoted_cons {c : Char} (hquote : c ≠ q.char) (hslash : c ≠ '\\') (cs : List Char) :
    takeQuoted q (c :: cs) = (takeQuoted q cs).map fun parts => (c :: parts.1, parts.2) := by
  rw [takeQuoted.eq_def]
  split
  · rename_i heq
    cases heq
  · rename_i heq
    cases heq
    exact absurd rfl hslash
  · rename_i heq
    cases heq
    rw [if_neg hslash, if_neg hquote]

theorem takeQuoted_blanks (h : ∀ c ∈ rest, Text.isBlank c = true) :
    takeQuoted q rest = .error .unclosedQuote := by
  induction rest with
  | nil =>
      rfl
  | cons c rest ih =>
      rw [List.forall_mem_cons] at h
      rcases ne_of_isBlank h.1 q with ⟨hquote, hslash⟩
      rw [takeQuoted_cons hquote hslash, ih h.2]
      rfl

theorem takeQuoted_slash {c : Char} (hquote : c ≠ q.char) (hslash : c ≠ '\\') (cs : List Char) :
    takeQuoted q ('\\' :: c :: cs) = .error (.badEscape q) := by
  rw [takeQuoted, if_neg (by simp [hquote, hslash])]

theorem map_eq_error_iff {ε α β : Type} {x : Except ε α} {f : α → β} {e : ε} :
    x.map f = .error e ↔ x = .error e := by
  cases x <;> simp [Except.map]

theorem takeQuoted_error_append (h : takeQuoted q cs = .error fault)
    (hrest : KeepsFault fault rest) : takeQuoted q (cs ++ rest) = .error fault := by
  fun_induction takeQuoted q cs with
  | case1 =>
      cases h
      exact takeQuoted_blanks (hrest.closesNone rfl)
  | case2 c cs hescape ih =>
      rw [map_eq_error_iff] at h
      rw [List.cons_append, List.cons_append, takeQuoted, if_pos hescape, ih h]
      rfl
  | case3 c cs hescape =>
      cases h
      rw [List.cons_append, List.cons_append, takeQuoted, if_neg hescape]
  | case4 cs hshort =>
      cases h
      -- The backslash is the last character, so that a blank would be escaped.
      cases cs with
      | cons c cs =>
          exact (hshort c cs rfl rfl).elim
      | nil =>
          cases rest with
          | nil =>
              rfl
          | cons c rest =>
              rcases ne_of_isBlank (hrest.begins c rfl) q with ⟨hquote, hslash⟩
              exact takeQuoted_slash hquote hslash rest
  | case5 =>
      cases h
  | case6 c cs _ hslash hquote ih =>
      rw [map_eq_error_iff] at h
      rw [List.cons_append, takeQuoted_cons hquote hslash, ih h]
      rfl

end Literals

/-!
## Derivations of faults
-/

/-- How a text fails to be cut: what stands at its front is at fault, or is skipped or a token
and the rest fails in turn. -/
inductive Stops (fault : TokenFault) : List Char → Prop where
  | blank {c : Char} {cs : List Char} : Text.isBlank c = true → Stops fault cs →
      Stops fault (c :: cs)
  | inside (q : Text.Quote) {cs : List Char} : takeQuoted q cs = .error fault →
      Stops fault (q.char :: cs)
  | behindQuote (q : Text.Quote) (inside : List Char) {cs : List Char} :
      checkAfterQuote cs = .error fault → Stops fault (q.char :: (q.escape inside ++ q.char :: cs))
  | quoted (q : Text.Quote) (inside : List Char) {cs : List Char} :
      checkAfterQuote cs = .ok () → Stops fault cs →
        Stops fault (q.char :: (q.escape inside ++ q.char :: cs))
  | punctuation {c : Char} {t : Token} {cs : List Char} : punctuation? c = some t →
      Stops fault cs → Stops fault (c :: cs)
  | operator {c : Char} {run cs : List Char} : isOperatorChar c = true →
      (∀ d ∈ run, isOperatorChar d = true) → StopsAt isOperatorChar cs → Stops fault cs →
        Stops fault (c :: (run ++ cs))
  | behindWord {c : Char} {run cs : List Char} : isWordChar c = true →
      (∀ d ∈ run, isWordChar d = true) → StopsAt isWordChar cs →
        checkAfterWord cs = .error fault → Stops fault (c :: (run ++ cs))
  | word {c : Char} {run cs : List Char} : isWordChar c = true →
      (∀ d ∈ run, isWordChar d = true) → StopsAt isWordChar cs → checkAfterWord cs = .ok () →
        Stops fault cs → Stops fault (c :: (run ++ cs))

theorem bind_eq_error_iff {ε α β : Type} {x : Except ε α} {f : α → Except ε β} {e : ε} :
    (x >>= f) = .error e ↔ x = .error e ∨ ∃ a, x = .ok a ∧ f a = .error e := by
  cases x with
  | error d =>
      simp
  | ok a =>
      simp

theorem stops_of_scan {fault : TokenFault} {cs : List Char} (h : scan cs = .error fault) :
    Stops fault cs := by
  fun_induction scan cs with
  | case1 =>
      cases h
  | case2 c cs hblank ih =>
      exact Stops.blank hblank (ih h)
  | case3 c cs hblank q hquote _ hq =>
      cases h
      rw [Text.Quote.ofChar?_eq_some_iff] at hquote
      rw [hquote]
      exact Stops.inside q hq
  | case4 c cs hblank q hquote inside rest hq ih =>
      rw [Text.Quote.ofChar?_eq_some_iff] at hquote
      rw [hquote, eq_escape_of_takeQuoted hq]
      rcases bind_eq_error_iff.mp h with hcheck | ⟨_, hcheck, h⟩
      · exact Stops.behindQuote q inside hcheck
      · rcases bind_eq_error_iff.mp h with hrest | ⟨_, _, h⟩
        · exact Stops.quoted q inside hcheck (ih hrest)
        · cases h
  | case5 c cs hblank hquote t ht ih =>
      rcases bind_eq_error_iff.mp h with hrest | ⟨_, _, h⟩
      · exact Stops.punctuation ht (ih hrest)
      · cases h
  | case6 c cs hblank hquote hpunctuation hoperator ih =>
      rcases bind_eq_error_iff.mp h with hrest | ⟨_, _, h⟩
      · have hstops := Stops.operator hoperator (forall_takeWhile isOperatorChar cs)
          (stopsAt_dropWhile isOperatorChar cs) (ih hrest)
        rwa [List.takeWhile_append_dropWhile] at hstops
      · cases h
  | case7 c cs hblank hquote hpunctuation hoperator rest =>
      rename_i ih
      have hword : isWordChar c = true :=
        isWordChar_iff.mpr ⟨by simpa using hblank, hquote, hpunctuation, by simpa using hoperator⟩
      have hrun := forall_takeWhile isWordChar cs
      have hstop := stopsAt_dropWhile isWordChar cs
      rcases bind_eq_error_iff.mp h with hcheck | ⟨_, hcheck, h⟩
      · have hstops := Stops.behindWord hword hrun hstop hcheck
        rwa [List.takeWhile_append_dropWhile] at hstops
      · rcases bind_eq_error_iff.mp h with hrest | ⟨_, _, h⟩
        · have hstops := Stops.word hword hrun hstop hcheck (ih hrest)
          rwa [List.takeWhile_append_dropWhile] at hstops
        · cases h

theorem Stops.scan_eq {fault : TokenFault} {cs : List Char} (h : Stops fault cs) :
    scan cs = .error fault := by
  induction h with
  | blank hblank _ ih =>
      rw [scan_blank hblank, ih]
  | inside q hq =>
      rw [scan_quote, hq]
      rfl
  | behindQuote q inside hcheck =>
      rw [scan_quote, takeQuoted_escape, ok_bind, hcheck]
      rfl
  | quoted q inside hcheck _ ih =>
      rw [scan_quoted q inside hcheck, ih]
      rfl
  | punctuation hpunctuation _ ih =>
      rw [scan_punctuation hpunctuation, ih]
      rfl
  | operator hfirst hrun hstop _ ih =>
      rw [scan_operator hfirst hrun hstop, ih]
      rfl
  | behindWord hfirst hrun hstop hcheck =>
      rw [scan_wordChar hfirst hrun hstop, hcheck]
      rfl
  | word hfirst hrun hstop hcheck _ ih =>
      rw [scan_word hfirst hrun hstop hcheck, ih]
      rfl

/-!
## Texts that go on
-/

section Append

variable {fault : TokenFault} {cs rest : List Char}

theorem checkAfterQuote_error_append (h : checkAfterQuote cs = .error fault) (rest : List Char) :
    checkAfterQuote (cs ++ rest) = .error fault := by
  cases cs with
  | nil =>
      cases h
  | cons c cs =>
      exact h

theorem checkAfterWord_error_append (h : checkAfterWord cs = .error fault) (rest : List Char) :
    checkAfterWord (cs ++ rest) = .error fault := by
  cases cs with
  | nil =>
      cases h
  | cons c cs =>
      exact h

theorem Stops.append_cons (h : Stops fault cs) {c : Char} (hrest : KeepsFault fault (c :: rest)) :
    Stops fault (cs ++ c :: rest) := by
  have hc : Text.isBlank c = true := hrest.begins c rfl
  induction h with
  | blank hblank _ ih =>
      exact Stops.blank hblank ih
  | inside q hq =>
      exact Stops.inside q (takeQuoted_error_append hq hrest)
  | behindQuote q inside hcheck =>
      have hstops := Stops.behindQuote q inside (checkAfterQuote_error_append hcheck (c :: rest))
      simpa using hstops
  | quoted q inside hcheck _ ih =>
      have hstops := Stops.quoted q inside (checkAfterQuote_append_blank hc hcheck rest) ih
      simpa using hstops
  | punctuation hpunctuation _ ih =>
      exact Stops.punctuation hpunctuation ih
  | operator hfirst hrun hstop _ ih =>
      have hstops := Stops.operator hfirst hrun
        (hstop.append (isOperatorChar_of_isBlank hc) rest) ih
      simpa using hstops
  | behindWord hfirst hrun hstop hcheck =>
      have hstops := Stops.behindWord hfirst hrun
        (hstop.append (isWordChar_of_isBlank hc) rest)
        (checkAfterWord_error_append hcheck (c :: rest))
      simpa using hstops
  | word hfirst hrun hstop hcheck _ ih =>
      have hstops := Stops.word hfirst hrun (hstop.append (isWordChar_of_isBlank hc) rest)
        (checkAfterWord_append_blank hc hcheck rest) ih
      simpa using hstops

/-- A gap outside quotes: what stands before it and what stands behind it are cut apart. -/
theorem scan_append_gap_append (hopen : scan cs ≠ .error .unclosedQuote) {gap : List Char}
    (hgap : IsGap gap) (rest : List Char) :
    scan (cs ++ gap ++ rest) = scan cs >>= fun ts => (scan rest).map (ts ++ ·) := by
  rcases hgap with ⟨hne, hblank⟩
  rcases List.exists_cons_of_ne_nil hne with ⟨c, gap, rfl⟩
  rw [List.forall_mem_cons] at hblank
  rw [List.append_assoc, List.cons_append]
  cases hscan : scan cs with
  | error fault =>
      rw [hscan] at hopen
      have hkeeps : KeepsFault fault (c :: (gap ++ rest)) := by
        constructor
        · intro d hd
          cases hd
          exact hblank.1
        · intro hfault
          rw [hfault] at hopen
          exact absurd rfl hopen
      exact ((stops_of_scan hscan).append_cons hkeeps).scan_eq
  | ok ts =>
      rw [(cut_of_scan hscan).scan_append_blank hblank.1, scan_gap hblank.2]
      rfl

/-- Blanks at the end do not count, not even behind a quote that is never closed. -/
theorem scan_append_blanks {gap : List Char} (h : ∀ c ∈ gap, Text.isBlank c = true)
    (cs : List Char) : scan (cs ++ gap) = scan cs := by
  cases hscan : scan cs with
  | ok ts =>
      exact scan_append_gap hscan h
  | error fault =>
      cases gap with
      | nil =>
          rw [List.append_nil, hscan]
      | cons c gap =>
          have hkeeps : KeepsFault fault (c :: gap) := by
            constructor
            · intro d hd
              cases hd
              exact h c List.mem_cons_self
            · intro _
              exact h
          exact ((stops_of_scan hscan).append_cons hkeeps).scan_eq

end Append

/-!
## Open quotes
-/

/-- The quote that is open behind a text, which begins inside the given quote or outside all. -/
def openQuote : Option Text.Quote → List Char → Option Text.Quote
  | inside, [] => inside
  | none, c :: cs => openQuote (Text.Quote.ofChar? c) cs
  | some q, '\\' :: _ :: cs => openQuote (some q) cs
  | some q, c :: cs => openQuote (if c = q.char then none else some q) cs

theorem openQuote_run {run : List Char} (h : ∀ c ∈ run, Text.Quote.ofChar? c = none)
    (cs : List Char) : openQuote none (run ++ cs) = openQuote none cs := by
  induction run with
  | nil =>
      rfl
  | cons c run ih =>
      rw [List.forall_mem_cons] at h
      rw [List.cons_append, openQuote, h.1, ih h.2]

theorem openQuote_cons {q : Text.Quote} {c : Char} (h : c ≠ '\\') (cs : List Char) :
    openQuote (some q) (c :: cs) = openQuote (if c = q.char then none else some q) cs :=
  openQuote.eq_4 q c cs fun _ _ hslash => absurd hslash h

theorem openQuote_escape (q : Text.Quote) (inside cs : List Char) :
    openQuote (some q) (q.escape inside ++ q.char :: cs) = openQuote none cs := by
  induction inside with
  | nil =>
      rw [Text.Quote.escape_nil, List.nil_append, openQuote_cons q.char_ne_backslash, if_pos rfl]
  | cons c inside ih =>
      rw [Text.Quote.escape_cons]
      by_cases hc : (c = q.char || c = '\\') = true
      · rw [if_pos hc]
        exact ih
      · rw [if_neg hc]
        have hne : c ≠ q.char ∧ c ≠ '\\' := by
          simpa using hc
        rw [List.singleton_append, List.cons_append, openQuote_cons hne.2, if_neg hne.1, ih]

theorem openQuote_of_takeQuoted {q : Text.Quote} {cs : List Char}
    (h : takeQuoted q cs = .error .unclosedQuote) : openQuote (some q) cs = some q := by
  fun_induction takeQuoted q cs with
  | case1 =>
      rfl
  | case2 c cs _ ih =>
      exact ih (map_eq_error_iff.mp h)
  | case3 =>
      cases h
  | case4 =>
      cases h
  | case5 =>
      cases h
  | case6 c cs _ hslash hquote ih =>
      rw [openQuote_cons hslash, if_neg hquote]
      exact ih (map_eq_error_iff.mp h)

theorem checkAfterQuote_ne_unclosed (cs : List Char) :
    checkAfterQuote cs ≠ .error .unclosedQuote := by
  unfold checkAfterQuote
  split
  · simp
  · split
    · simp
    · split <;> simp

theorem checkAfterWord_ne_unclosed (cs : List Char) :
    checkAfterWord cs ≠ .error .unclosedQuote := by
  unfold checkAfterWord
  split
  · simp
  · split <;> simp

theorem Stops.openQuote_ne_none {cs : List Char} (h : Stops .unclosedQuote cs) :
    openQuote none cs ≠ none := by
  induction h with
  | blank hblank _ ih =>
      rwa [openQuote, ofChar?_of_isBlank hblank]
  | inside q hq =>
      rw [openQuote, Text.Quote.ofChar?_char, openQuote_of_takeQuoted hq]
      simp
  | behindQuote _ _ hcheck =>
      exact absurd hcheck (checkAfterQuote_ne_unclosed _)
  | quoted q inside _ _ ih =>
      rwa [openQuote, Text.Quote.ofChar?_char, openQuote_escape]
  | punctuation hpunctuation _ ih =>
      rwa [openQuote, (punctuation?_disjoint hpunctuation).2]
  | @operator c run cs hfirst hrun _ _ ih =>
      have hall : ∀ d ∈ c :: run, isOperatorChar d = true :=
        List.forall_mem_cons.mpr ⟨hfirst, hrun⟩
      rwa [← List.cons_append, openQuote_run]
      intro d hd
      exact (isOperatorChar_disjoint (hall d hd)).2.1
  | behindWord _ _ _ hcheck =>
      exact absurd hcheck (checkAfterWord_ne_unclosed _)
  | @word c run cs hfirst hrun _ _ _ ih =>
      have hall : ∀ d ∈ c :: run, isWordChar d = true :=
        List.forall_mem_cons.mpr ⟨hfirst, hrun⟩
      rwa [← List.cons_append, openQuote_run]
      intro d hd
      exact (isWordChar_iff.mp (hall d hd)).2.1

theorem texts_ne_unclosed {cs : List Char} (h : openQuote none cs = none) :
    texts cs ≠ .error .unclosedQuote := by
  intro htexts
  rw [texts, map_eq_error_iff] at htexts
  exact (stops_of_scan htexts).openQuote_ne_none h

/-- The texts of the tokens, too, are those before and those behind a gap. -/
theorem texts_append_gap_append {a w : List Char} {pieces : List String}
    (h : texts a = .ok pieces) (hw : IsGap w) (b : List Char) :
    texts (a ++ w ++ b) = (texts b).map (pieces ++ ·) := by
  rcases texts_eq_ok_iff.mp h with ⟨ts, hscan, hpieces⟩
  have hopen : scan a ≠ .error .unclosedQuote := by
    rw [hscan]
    simp
  rw [texts, texts, scan_append_gap_append hopen hw, hscan, ← hpieces]
  cases scan b <;> simp [Except.map]

end Token

/-!
## Texts of queries
-/

namespace Text

theorem trim_append_blanks {gap : List Char} (h : ∀ c ∈ gap, isBlank c = true)
    (cs : List Char) : trim (cs ++ gap) = trim cs := by
  induction gap using List.reverseRecOn with
  | nil =>
      rw [List.append_nil]
  | append_singleton gap c ih =>
      rw [List.forall_mem_append, List.forall_mem_singleton] at h
      rw [← List.append_assoc, trim_concat h.2, ih h.1]

theorem trim_blanks_append {gap : List Char} (h : ∀ c ∈ gap, isBlank c = true)
    (cs : List Char) : trim (gap ++ cs) = trim cs := by
  rw [trim, trim, trimLeft, trimLeft, List.dropWhile_append_of_pos h]

/-- A text is blank, or there is a last character that is not. -/
theorem blank_or_exists_last (cs : List Char) :
    (∀ c ∈ cs, isBlank c = true) ∨
      ∃ front last gap, cs = front ++ last :: gap ∧ isBlank last = false ∧
        ∀ c ∈ gap, isBlank c = true := by
  induction cs with
  | nil =>
      left
      simp
  | cons c cs ih =>
      rcases ih with hblank | ⟨front, last, gap, hcs, hlast, hgap⟩
      · cases hc : isBlank c with
        | true =>
            left
            exact List.forall_mem_cons.mpr ⟨hc, hblank⟩
        | false =>
            right
            exact ⟨[], c, cs, rfl, hc, hblank⟩
      · right
        exact ⟨c :: front, last, gap, congrArg (c :: ·) hcs, hlast, hgap⟩

theorem trim_append_cons {last : Char} (hlast : isBlank last = false) {gap : List Char}
    (hgap : ∀ c ∈ gap, isBlank c = true) (front : List Char) :
    trim (front ++ last :: gap) = trimLeft front ++ [last] := by
  have hright : trimRight gap = [] := by
    rw [trimRight, List.reverse_eq_nil_iff, List.dropWhile_eq_nil_iff]
    intro c hc
    exact hgap c (List.mem_reverse.mp hc)
  rw [trim, trimLeft_append_cons hlast, trimRight_append_cons hlast, hright]

end Text

namespace Query

/-- The query that a text is written for, taken as it stands to its very end. -/
def read (cs : List Char) : Except QueryFault Query :=
  match Token.scan cs with
  | .error fault => .error (.token fault)
  | .ok tokens => ofTokens tokens

theorem parse_eq_read_strip (text : String) : parse text = read (strip text.toList) :=
  rfl

theorem read_congr {cs ds : List Char} (h : Token.scan cs = Token.scan ds) :
    read cs = read ds := by
  rw [read, read, h]

/-- Blanks at the ends are passed over, and so is a semicolon that ends the text. -/
theorem scan_strip_append_cons {last : Char} (hlast : Text.isBlank last = false)
    {gap : List Char} (hgap : ∀ c ∈ gap, Text.isBlank c = true) (front : List Char) :
    Token.scan (strip (front ++ last :: gap)) =
      if last = ';' then Token.scan front else Token.scan (front ++ [last]) := by
  have htrim := Text.trim_append_cons hlast hgap front
  split
  · rename_i hsemicolon
    rw [strip, htrim, hsemicolon, Text.stripEnd?_append]
    exact Token.scan_trimLeft front
  · rename_i hsemicolon
    rw [strip, htrim, Text.stripEnd?_append_of_ne hsemicolon, Option.getD_none,
      ← Text.trimLeft_append_cons hlast front []]
    exact Token.scan_trimLeft (front ++ [last])

theorem read_strip_append_cons {last : Char} (hlast : Text.isBlank last = false)
    {gap : List Char} (hgap : ∀ c ∈ gap, Text.isBlank c = true) (front : List Char) :
    read (strip (front ++ last :: gap)) =
      if last = ';' then read front else read (front ++ [last]) := by
  have hscan := scan_strip_append_cons hlast hgap front
  split
  · rename_i hsemicolon
    exact read_congr (hscan.trans (if_pos hsemicolon))
  · rename_i hsemicolon
    exact read_congr (hscan.trans (if_neg hsemicolon))

/-- Nothing is left of a blank text. -/
theorem strip_blanks {gap : List Char} (h : ∀ c ∈ gap, Text.isBlank c = true) :
    strip gap = [] := by
  have htrim : Text.trim gap = [] := Text.trim_append_blanks h []
  rw [strip, htrim]
  rfl

/-- What a gap outside quotes is made of is not seen. -/
theorem parse_gap_congr {a w v : List Char} (hopen : Token.texts a ≠ .error .unclosedQuote)
    (hw : Token.IsGap w) (hv : Token.IsGap v) (b : List Char) :
    parse (String.ofList (a ++ w ++ b)) = parse (String.ofList (a ++ v ++ b)) := by
  have hscan : Token.scan a ≠ .error .unclosedQuote := by
    rwa [ne_eq, ← Token.map_eq_error_iff (f := List.map Token.text)]
  have hread : ∀ rest, read (a ++ w ++ rest) = read (a ++ v ++ rest) := by
    intro rest
    apply read_congr
    rw [Token.scan_append_gap_append hscan hw, Token.scan_append_gap_append hscan hv]
  rw [parse_eq_read_strip, parse_eq_read_strip, String.toList_ofList, String.toList_ofList]
  rcases Text.blank_or_exists_last b with hblank | ⟨front, last, gap, hb, hlast, hgap⟩
  · rw [strip, strip, Text.trim_append_blanks hblank, Text.trim_append_blanks hblank,
      Text.trim_append_blanks hw.2, Text.trim_append_blanks hv.2]
  · rw [hb, ← List.append_assoc, ← List.append_assoc, read_strip_append_cons hlast hgap,
      read_strip_append_cons hlast hgap, List.append_assoc (a ++ w), List.append_assoc (a ++ v),
      hread, hread]

theorem parse_congr_of_trim {cs ds : List Char} (h : Text.trim cs = Text.trim ds) :
    parse (String.ofList cs) = parse (String.ofList ds) := by
  rw [parse_eq_read_strip, parse_eq_read_strip, String.toList_ofList, String.toList_ofList,
    strip, strip, h]

theorem parse_append_semicolon_of_ne {cs : List Char}
    (h : (Text.trim cs).getLast? ≠ some ';') :
    parse (String.ofList (cs ++ [';'])) = parse (String.ofList cs) := by
  rw [parse_eq_read_strip, parse_eq_read_strip, String.toList_ofList, String.toList_ofList,
    strip_append_semicolon, read_congr (Token.scan_trimLeft cs)]
  rcases Text.blank_or_exists_last cs with hblank | ⟨front, last, gap, hcs, hlast, hgap⟩
  · rw [strip_blanks hblank]
    exact read_congr (Token.scan_append_blanks hblank [])
  · have hsemicolon : last ≠ ';' := by
      rw [hcs, Text.trim_append_cons hlast hgap, List.getLast?_concat] at h
      intro heq
      exact h (congrArg some heq)
    rw [hcs, read_strip_append_cons hlast hgap, if_neg hsemicolon, List.append_cons]
    exact read_congr (Token.scan_append_blanks hgap _)

/-- A text is cut before and behind any gap as each part alone, and fails as the part behind
fails.  So a query is read in the same way, or refused for the same fault, whichever gap stands
at a place outside quotes, with blanks around it or without, and with one semicolon behind it
or without. -/
theorem parse_layout :
    (∀ (a w b : List Char) (pieces : List String), Token.texts a = .ok pieces →
      Token.IsGap w → Token.texts (a ++ w ++ b) = (Token.texts b).map (pieces ++ ·)) ∧
    (∀ a, Token.openQuote none a = none → Token.texts a ≠ .error .unclosedQuote) ∧
    (∀ a w v b, Token.texts a ≠ .error .unclosedQuote → Token.IsGap w → Token.IsGap v →
      parse (String.ofList (a ++ w ++ b)) = parse (String.ofList (a ++ v ++ b))) ∧
    (∀ before cs after, (∀ c ∈ before ++ after, Text.isBlank c = true) →
      parse (String.ofList (before ++ cs ++ after)) = parse (String.ofList cs)) ∧
    ∀ cs, (Text.trim cs).getLast? ≠ some ';' →
      parse (String.ofList (cs ++ [';'])) = parse (String.ofList cs) := by
  refine ⟨?_, ?_, ?_, ?_, ?_⟩
  · intro a w b pieces ha hw
    exact Token.texts_append_gap_append ha hw b
  · intro a
    exact Token.texts_ne_unclosed
  · intro a w v b hopen hw hv
    exact parse_gap_congr hopen hw hv b
  · intro before cs after hblank
    rw [List.forall_mem_append] at hblank
    apply parse_congr_of_trim
    rw [Text.trim_append_blanks hblank.2, Text.trim_blanks_append hblank.1]
  · intro cs
    exact parse_append_semicolon_of_ne

/-- A literal with an escaped quote in front of the gap, and one that is never closed behind it. -/
theorem parse_layout_unclosed :
    let a := "SELECT name FROM staff WHERE title = 'it\\'s'".toList
    let w := " \t".toList
    let v := "\u3000".toList
    let b := "AND city = 'open  ".toList
    let pieces := ["SELECT", "name", "FROM", "staff", "WHERE", "title", "=", "'it's'"]
    Token.texts a = .ok pieces ∧ Token.IsGap w ∧ Token.IsGap v ∧ Token.openQuote none a = none ∧
      (∀ c ∈ v ++ w, Text.isBlank c = true) ∧ (Text.trim a).getLast? ≠ some ';' ∧
      Token.texts (a ++ w ++ b) = (Token.texts b).map (pieces ++ ·) ∧
      Token.texts a ≠ .error .unclosedQuote ∧
      parse (String.ofList (a ++ w ++ b)) = parse (String.ofList (a ++ v ++ b)) ∧
      parse (String.ofList (v ++ a ++ w)) = parse (String.ofList a) ∧
      parse (String.ofList (a ++ [';'])) = parse (String.ofList a) := by
  intro a w v b pieces
  have ha : Token.texts a = .ok pieces := by decide +kernel
  have hw : Token.IsGap w := ⟨List.cons_ne_nil _ _, List.all_eq_true.mp rfl⟩
  have hv : Token.IsGap v := ⟨List.cons_ne_nil _ _, List.all_eq_true.mp rfl⟩
  have houtside : Token.openQuote none a = none := by decide +kernel
  have hblank : ∀ c ∈ v ++ w, Text.isBlank c = true := List.all_eq_true.mp rfl
  have hlast : (Text.trim a).getLast? ≠ some ';' := by decide +kernel
  rcases parse_layout with ⟨htexts, hopen, hgap, hends, hsemicolon⟩
  exact ⟨ha, hw, hv, houtside, hblank, hlast, htexts a w b pieces ha hw, hopen a houtside,
    hgap a w v b (hopen a houtside) hw hv, hends v a w hblank, hsemicolon a hlast⟩

end Query
end TableQuery
