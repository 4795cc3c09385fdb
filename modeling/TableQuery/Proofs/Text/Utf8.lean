import TableQuery.Text.Utf8

/-!
# Well-formed bytes

Decoding undoes encoding, and only what is the encoding of a text is decoded.  So bytes are
well formed exactly if they are those of some text, which is then the only one.
-/

namespace TableQuery
namespace Text
namespace Utf8

/-!
## Forms of one character
-/

/-- The bytes are a form of the character with the number, by the count of bytes. -/
inductive Form : List UInt8 → Nat → Prop
  | one {a : UInt8} {n : Nat} (ha : a.toNat < 0x80) (hn : n = a.toNat) : Form [a] n
  | two {a b : UInt8} {n : Nat} (ha : 0xC2 ≤ a.toNat ∧ a.toNat ≤ 0xDF)
      (hb : isContinuation b = true) (hn : n = (a.toNat - 0xC0) * 64 + payload b) :
      Form [a, b] n
  | three {a b c : UInt8} {n : Nat} (ha : 0xE0 ≤ a.toNat ∧ a.toNat ≤ 0xEF)
      (hb : isContinuation b = true) (hc : isContinuation c = true)
      (hlow : a.toNat = 0xE0 → 0xA0 ≤ b.toNat) (hhigh : a.toNat = 0xED → b.toNat ≤ 0x9F)
      (hn : n = ((a.toNat - 0xE0) * 64 + payload b) * 64 + payload c) :
      Form [a, b, c] n
  | four {a b c d : UInt8} {n : Nat} (ha : 0xF0 ≤ a.toNat ∧ a.toNat ≤ 0xF4)
      (hb : isContinuation b = true) (hc : isContinuation c = true)
      (hd : isContinuation d = true) (hlow : a.toNat = 0xF0 → 0x90 ≤ b.toNat)
      (hhigh : a.toNat = 0xF4 → b.toNat ≤ 0x8F)
      (hn : n = (((a.toNat - 0xF0) * 64 + payload b) * 64 + payload c) * 64 + payload d) :
      Form [a, b, c, d] n

variable {n : Nat} {head bytes rest : List UInt8} {ch : Char}

theorem isContinuation_iff {b : UInt8} :
    isContinuation b = true ↔ 0x80 ≤ b.toNat ∧ b.toNat ≤ 0xBF := by
  simp only [isContinuation, Bool.and_eq_true, decide_eq_true_eq, UInt8.le_iff_toNat_le]
  exact Iff.rfl

theorem bne_or_iff {a x : UInt8} {p : Bool} :
    (a != x || p) = true ↔ (a.toNat = x.toNat → p = true) := by
  rw [Bool.or_eq_true, bne_iff_ne, ne_eq, ← UInt8.toNat_inj, Decidable.imp_iff_not_or]

theorem Form.next?_append (h : Form head n) (rest : List UInt8) :
    next? (head ++ rest) = some (Char.ofNat n, rest) := by
  cases h with
  | one ha hn =>
      simp only [List.cons_append, List.nil_append, next?, UInt8.lt_iff_toNat_lt,
        UInt8.reduceToNat]
      rw [if_pos ha, hn]
  | two ha hb hn =>
      simp only [List.cons_append, List.nil_append, next?, UInt8.lt_iff_toNat_lt,
        UInt8.le_iff_toNat_le, UInt8.reduceToNat, Bool.and_eq_true, decide_eq_true_eq]
      rw [if_neg (by omega), if_pos ha, if_pos hb, hn]
  | three ha hb hc hlow hhigh hn =>
      simp only [List.cons_append, List.nil_append, next?, UInt8.lt_iff_toNat_lt,
        UInt8.le_iff_toNat_le, UInt8.reduceToNat, Bool.and_eq_true, bne_or_iff,
        decide_eq_true_eq]
      rw [if_neg (by omega), if_neg (by omega), if_pos ha, if_pos ⟨⟨⟨hb, hc⟩, hlow⟩, hhigh⟩,
        hn]
  | four ha hb hc hd hlow hhigh hn =>
      simp only [List.cons_append, List.nil_append, next?, UInt8.lt_iff_toNat_lt,
        UInt8.le_iff_toNat_le, UInt8.reduceToNat, Bool.and_eq_true, bne_or_iff,
        decide_eq_true_eq]
      rw [if_neg (by omega), if_neg (by omega), if_neg (by omega), if_pos ha,
        if_pos ⟨⟨⟨⟨hb, hc⟩, hd⟩, hlow⟩, hhigh⟩, hn]

theorem exists_form_of_next? (h : next? bytes = some (ch, rest)) :
    ∃ head n, Form head n ∧ bytes = head ++ rest ∧ ch = Char.ofNat n := by
  cases bytes with
  | nil =>
      cases h
  | cons a bytes =>
      simp only [next?, UInt8.lt_iff_toNat_lt, UInt8.le_iff_toNat_le, UInt8.reduceToNat,
        Bool.and_eq_true, bne_or_iff, decide_eq_true_eq] at h
      repeat' split at h
      all_goals cases h
      · exact ⟨_, _, .one ‹_› rfl, rfl, rfl⟩
      · exact ⟨_, _, .two ‹_› ‹_› rfl, rfl, rfl⟩
      · rename_i hparts
        rcases hparts with ⟨⟨⟨hb, hc⟩, hlow⟩, hhigh⟩
        exact ⟨_, _, .three ‹_› hb hc hlow hhigh rfl, rfl, rfl⟩
      · rename_i hparts
        rcases hparts with ⟨⟨⟨⟨hb, hc⟩, hd⟩, hlow⟩, hhigh⟩
        exact ⟨_, _, .four ‹_› hb hc hd hlow hhigh rfl, rfl, rfl⟩

/-!
## Encoding one character
-/

theorem encodeChar_one {c : Char} (h : c.toNat ≤ 0x7F) :
    String.utf8EncodeChar c = [UInt8.ofNat c.toNat] :=
  if_pos h

theorem encodeChar_two {c : Char} (hlow : 0x7F < c.toNat) (hhigh : c.toNat ≤ 0x7FF) :
    String.utf8EncodeChar c =
      [UInt8.ofNat (c.toNat / 64 % 32 + 0xC0), UInt8.ofNat (c.toNat % 64 + 0x80)] :=
  (if_neg (Nat.not_le.mpr hlow)).trans (if_pos hhigh)

theorem encodeChar_three {c : Char} (hlow : 0x7FF < c.toNat) (hhigh : c.toNat ≤ 0xFFFF) :
    String.utf8EncodeChar c =
      [UInt8.ofNat (c.toNat / 4096 % 16 + 0xE0), UInt8.ofNat (c.toNat / 64 % 64 + 0x80),
        UInt8.ofNat (c.toNat % 64 + 0x80)] :=
  (if_neg (by omega : ¬c.toNat ≤ 0x7F)).trans
    ((if_neg (Nat.not_le.mpr hlow)).trans (if_pos hhigh))

theorem encodeChar_four {c : Char} (hlow : 0xFFFF < c.toNat) :
    String.utf8EncodeChar c =
      [UInt8.ofNat (c.toNat / 262144 % 8 + 0xF0), UInt8.ofNat (c.toNat / 4096 % 64 + 0x80),
        UInt8.ofNat (c.toNat / 64 % 64 + 0x80), UInt8.ofNat (c.toNat % 64 + 0x80)] :=
  (if_neg (by omega : ¬c.toNat ≤ 0x7F)).trans
    ((if_neg (by omega : ¬c.toNat ≤ 0x7FF)).trans (if_neg (Nat.not_le.mpr hlow)))

theorem form_encodeChar (c : Char) : Form (String.utf8EncodeChar c) c.toNat := by
  have hvalid : c.toNat < 0xD800 ∨ 0xDFFF < c.toNat ∧ c.toNat < 0x110000 := c.valid
  by_cases h1 : c.toNat ≤ 0x7F
  · rw [encodeChar_one h1]
    refine .one ?_ ?_
    all_goals rw [UInt8.toNat_ofNat']
    all_goals omega
  by_cases h2 : c.toNat ≤ 0x7FF
  · rw [encodeChar_two (by omega) h2]
    refine .two ?_ ?_ ?_
    all_goals simp only [isContinuation_iff, payload, UInt8.toNat_ofNat']
    all_goals omega
  by_cases h3 : c.toNat ≤ 0xFFFF
  · rw [encodeChar_three (by omega) h3]
    refine .three ?_ ?_ ?_ ?_ ?_ ?_
    all_goals simp only [isContinuation_iff, payload, UInt8.toNat_ofNat']
    all_goals omega
  · rw [encodeChar_four (by omega)]
    refine .four ?_ ?_ ?_ ?_ ?_ ?_ ?_
    all_goals simp only [isContinuation_iff, payload, UInt8.toNat_ofNat']
    all_goals omega

theorem Form.toNat_ofNat (h : Form head n) : (Char.ofNat n).toNat = n := by
  have hvalid : n.isValidChar := by
    cases h with
    | one ha hn =>
        exact Or.inl (by omega)
    | two ha hb hn =>
        simp only [payload] at hn
        exact Or.inl (by omega)
    | three ha hb hc hlow hhigh hn =>
        simp only [isContinuation_iff] at hb hc
        simp only [Nat.isValidChar, payload] at hn ⊢
        omega
    | four ha hb hc hd hlow hhigh hn =>
        simp only [isContinuation_iff] at hb hc hd
        simp only [Nat.isValidChar, payload] at hn ⊢
        omega
  rw [Char.ofNat, dif_pos hvalid]
  rfl

theorem Form.encodeChar_ofNat (h : Form head n) :
    String.utf8EncodeChar (Char.ofNat n) = head := by
  have hself := h.toNat_ofNat
  cases h with
  | one ha hn =>
      rw [encodeChar_one (by omega), hself, hn, UInt8.ofNat_toNat]
  | two ha hb hn =>
      simp only [isContinuation_iff, payload] at hb hn
      rw [encodeChar_two (by omega) (by omega), hself]
      simp only [List.cons.injEq, ← UInt8.toNat_inj, UInt8.toNat_ofNat', and_true]
      omega
  | three ha hb hc hlow hhigh hn =>
      simp only [isContinuation_iff, payload] at hb hc hn
      rw [encodeChar_three (by omega) (by omega), hself]
      simp only [List.cons.injEq, ← UInt8.toNat_inj, UInt8.toNat_ofNat', and_true]
      omega
  | four ha hb hc hd hlow hhigh hn =>
      simp only [isContinuation_iff, payload] at hb hc hd hn
      rw [encodeChar_four (by omega), hself]
      simp only [List.cons.injEq, ← UInt8.toNat_inj, UInt8.toNat_ofNat', and_true]
      omega

theorem next?_eq_some_iff :
    next? bytes = some (ch, rest) ↔ bytes = String.utf8EncodeChar ch ++ rest := by
  constructor
  · intro h
    rcases exists_form_of_next? h with ⟨head, n, hform, rfl, rfl⟩
    rw [hform.encodeChar_ofNat]
  · rintro rfl
    rw [(form_encodeChar ch).next?_append, Char.ofNat_toNat]

/-!
## Decoding
-/

theorem encode_cons (c : Char) (cs : List Char) :
    encode (c :: cs) = String.utf8EncodeChar c ++ encode cs :=
  rfl

theorem encode_decode (bytes : List UInt8) :
    encode (decode bytes).1 ++ (decode bytes).2 = bytes := by
  fun_induction decode bytes with
  | case1 bytes hnext =>
      rfl
  | case2 bytes c rest hnext tail ih =>
      rw [encode_cons, List.append_assoc, ih, next?_eq_some_iff.mp hnext]

theorem decode_encode (cs : List Char) : decode (encode cs) = (cs, []) := by
  induction cs with
  | nil =>
      rw [encode_nil, decode]
      rfl
  | cons c cs ih =>
      have hnext : next? (encode (c :: cs)) = some (c, encode cs) :=
        next?_eq_some_iff.mpr (encode_cons c cs)
      rw [decode, hnext]
      simp [ih]

theorem encode_inj {cs ds : List Char} (h : encode cs = encode ds) : cs = ds := by
  have hdecode := congrArg decode h
  rw [decode_encode, decode_encode] at hdecode
  exact congrArg Prod.fst hdecode

theorem decode?_eq_some_iff {cs : List Char} : decode? bytes = some cs ↔ encode cs = bytes := by
  constructor
  · intro h
    have hback := encode_decode bytes
    unfold decode? at h
    split at h
    · rename_i ds hdecode
      cases h
      rw [hdecode, List.append_nil] at hback
      exact hback
    · cases h
  · rintro rfl
    rw [decode?, decode_encode]

/-!
## Well-formed bytes
-/

/-- The bytes are those of a text. -/
def IsValid (bytes : List UInt8) : Prop :=
  ∃ cs, encode cs = bytes

theorem decode?_eq_none_iff : decode? bytes = none ↔ ¬IsValid bytes := by
  rw [Option.eq_none_iff_forall_ne_some]
  constructor
  · rintro h ⟨cs, hcs⟩
    exact h cs (decode?_eq_some_iff.mpr hcs)
  · intro h cs hcs
    exact h ⟨cs, decode?_eq_some_iff.mp hcs⟩

theorem isValid_nil : IsValid [] :=
  ⟨[], rfl⟩

theorem IsValid.append {xs ys : List UInt8} (hxs : IsValid xs) (hys : IsValid ys) :
    IsValid (xs ++ ys) := by
  rcases hxs with ⟨cs, rfl⟩
  rcases hys with ⟨ds, rfl⟩
  exact ⟨cs ++ ds, encode_append cs ds⟩

/-!
## Bytes of ASCII characters

A byte below `0x80` is a character of its own, so that what is cut out between such bytes is
well formed.
-/

theorem Form.ascii_or_forall_le (h : Form head n) :
    (∃ b, head = [b] ∧ b.toNat < 0x80) ∨ ∀ b ∈ head, 0x80 ≤ b.toNat := by
  cases h with
  | one ha hn =>
      exact Or.inl ⟨_, rfl, ha⟩
  | two ha hb hn =>
      rw [isContinuation_iff] at hb
      simp only [List.forall_mem_cons, List.not_mem_nil, false_implies, implies_true, and_true]
      omega
  | three ha hb hc hlow hhigh hn =>
      rw [isContinuation_iff] at hb hc
      simp only [List.forall_mem_cons, List.not_mem_nil, false_implies, implies_true, and_true]
      omega
  | four ha hb hc hd hlow hhigh hn =>
      rw [isContinuation_iff] at hb hc hd
      simp only [List.forall_mem_cons, List.not_mem_nil, false_implies, implies_true, and_true]
      omega

/-- Well-formed bytes are built from bytes of ASCII characters and from longer forms. -/
@[elab_as_elim]
theorem IsValid.induction {motive : (bytes : List UInt8) → IsValid bytes → Prop}
    (nil : motive [] isValid_nil)
    (ascii : ∀ b rest, b.toNat < 0x80 → ∀ (hrest : IsValid rest) (h : IsValid (b :: rest)),
      motive rest hrest → motive (b :: rest) h)
    (long : ∀ head rest, head ≠ [] → (∀ b ∈ head, 0x80 ≤ b.toNat) → IsValid head →
      ∀ (hrest : IsValid rest) (h : IsValid (head ++ rest)),
        motive rest hrest → motive (head ++ rest) h)
    {bytes : List UInt8} (h : IsValid bytes) : motive bytes h := by
  rcases h with ⟨cs, rfl⟩
  induction cs with
  | nil =>
      exact nil
  | cons c cs ih =>
      have hchar : IsValid (String.utf8EncodeChar c) := ⟨[c], List.append_nil _⟩
      have hcons : IsValid (String.utf8EncodeChar c ++ encode cs) := ⟨c :: cs, rfl⟩
      show motive (String.utf8EncodeChar c ++ encode cs) hcons
      rcases (form_encodeChar c).ascii_or_forall_le with ⟨b, hbytes, hb⟩ | hall
      · generalize String.utf8EncodeChar c = head at *
        subst hbytes
        exact ascii b (encode cs) hb ⟨cs, rfl⟩ hcons ih
      · exact long _ _ String.utf8EncodeChar_ne_nil hall hchar ⟨cs, rfl⟩ hcons ih

theorem IsValid.of_cons {b : UInt8} (hb : b.toNat < 0x80) (h : IsValid (b :: bytes)) :
    IsValid bytes := by
  generalize hcons : b :: bytes = whole at h
  induction h using IsValid.induction with
  | nil =>
      cases hcons
  | ascii first rest _ hrest _ _ =>
      cases hcons
      exact hrest
  | long head rest hne hhead _ _ _ _ =>
      rcases List.exists_cons_of_ne_nil hne with ⟨first, more, rfl⟩
      cases hcons
      have hfirst := hhead b List.mem_cons_self
      omega

theorem isValid_singleton {b : UInt8} (hb : b.toNat < 0x80) : IsValid [b] := by
  refine ⟨[Char.ofNat b.toNat], ?_⟩
  rw [encode_cons, (Form.one hb rfl).encodeChar_ofNat]
  rfl

theorem IsValid.cons {b : UInt8} (hb : b.toNat < 0x80) (h : IsValid bytes) :
    IsValid (b :: bytes) :=
  (isValid_singleton hb).append h

theorem IsValid.of_concat {b : UInt8} (hb : b.toNat < 0x80) (h : IsValid (bytes ++ [b])) :
    IsValid bytes := by
  rcases h with ⟨cs, hcs⟩
  rcases List.eq_nil_or_concat cs with rfl | ⟨ds, c, rfl⟩
  · exact absurd hcs.symm (by simp)
  · rw [List.concat_eq_append, encode_append, encode_cons, encode_nil, List.append_nil] at hcs
    rcases (form_encodeChar c).ascii_or_forall_le with ⟨last, hlast, _⟩ | hall
    · rw [hlast] at hcs
      exact ⟨ds, List.append_inj_left' hcs rfl⟩
    · -- The last byte of a longer form is no ASCII character.
      rcases List.eq_nil_or_concat (String.utf8EncodeChar c) with hnil | ⟨init, last, hchar⟩
      · exact absurd hnil String.utf8EncodeChar_ne_nil
      · rw [hchar, List.concat_eq_append, ← List.append_assoc] at hcs
        have hlast : last = b := (List.cons.inj (List.append_inj_right' hcs rfl)).1
        have hmem := hall last (by simp [hchar])
        rw [hlast] at hmem
        omega

/-- A cut before an ASCII character parts a text into two. -/
theorem IsValid.span {p : UInt8 → Bool} (hp : ∀ b : UInt8, 0x80 ≤ b.toNat → p b = true)
    (h : IsValid bytes) : IsValid (bytes.takeWhile p) ∧ IsValid (bytes.dropWhile p) := by
  induction h using IsValid.induction with
  | nil =>
      exact ⟨isValid_nil, isValid_nil⟩
  | ascii b rest hb hrest h ih =>
      cases hkeep : p b with
      | false =>
          rw [List.takeWhile_cons_of_neg (by simp [hkeep]),
            List.dropWhile_cons_of_neg (by simp [hkeep])]
          exact ⟨isValid_nil, h⟩
      | true =>
          rw [List.takeWhile_cons_of_pos hkeep, List.dropWhile_cons_of_pos hkeep]
          exact ⟨ih.1.cons hb, ih.2⟩
  | long head rest _ hhead hvalid _ _ ih =>
      have hkeep : ∀ b ∈ head, p b = true := fun b hb => hp b (hhead b hb)
      rw [List.takeWhile_append_of_pos hkeep, List.dropWhile_append_of_pos hkeep]
      exact ⟨hvalid.append ih.1, ih.2⟩

/-- Without ASCII characters at its beginning a text is still one. -/
theorem IsValid.dropWhile {p : UInt8 → Bool} (hp : ∀ b, p b = true → b.toNat < 0x80)
    (h : IsValid bytes) : IsValid (bytes.dropWhile p) := by
  induction bytes with
  | nil =>
      exact h
  | cons b bytes ih =>
      by_cases hdrop : p b = true
      · rw [List.dropWhile_cons_of_pos hdrop]
        exact ih (h.of_cons (hp b hdrop))
      · rw [List.dropWhile_cons_of_neg hdrop]
        exact h

end Utf8
end Text
end TableQuery
