import TableQuery.Json.Result
import TableQuery.Proofs.Decimal.Integers
import TableQuery.Proofs.Query.Scanning

/-!
# Numbers written and read

A number ends where a character stands that numbers are not made of, so what is read of it
does not depend on what follows.  Integers that are written as such are read as themselves,
but for the sign of a zero.  Other numbers are read with floating-point arithmetic, and not
all of them are read as they were.
-/

namespace TableQuery
namespace Json

/-!
## Ends of numbers
-/

section Ends

variable {α : Type} {p : α → Bool} {rest : List α}

theorem takeWhile_append_of_stopsAt (h : StopsAt p rest) (cs : List α) :
    (cs ++ rest).takeWhile p = cs.takeWhile p := by
  induction cs with
  | nil =>
      cases rest with
      | nil => rfl
      | cons c rest => simp [h c rfl]
  | cons c cs ih =>
      cases hc : p c <;> simp [hc, ih]

theorem dropWhile_append_of_stopsAt (h : StopsAt p rest) (cs : List α) :
    (cs ++ rest).dropWhile p = cs.dropWhile p ++ rest := by
  induction cs with
  | nil =>
      cases rest with
      | nil => rfl
      | cons c rest => simp [h c rfl]
  | cons c cs ih =>
      cases hc : p c <;> simp [hc, ih]

end Ends

/-- Characters that numbers are made of. -/
def isNumberChar (c : Char) : Bool :=
  c.isDigit || c = '.' || c = 'e' || c = 'E' || c = '+' || c = '-'

/-- What has been read, with more behind what follows it. -/
def withRest {α : Type} (rest : List Char) (read : Option (α × List Char)) :
    Option (α × List Char) :=
  read.map fun p => (p.1, p.2 ++ rest)

variable {α β : Type} {rest : List Char}

@[simp]
theorem withRest_none : withRest rest (none : Option (α × List Char)) = none :=
  rfl

@[simp]
theorem withRest_some (a : α) (cs : List Char) :
    withRest rest (some (a, cs)) = some (a, cs ++ rest) :=
  rfl

theorem withRest_bind {read : Option (α × List Char)}
    {next next' : α × List Char → Option (β × List Char)}
    (h : ∀ a cs, next (a, cs ++ rest) = withRest rest (next' (a, cs))) :
    (withRest rest read >>= next) = withRest rest (read >>= next') := by
  cases read with
  | none => rfl
  | some p => exact h p.1 p.2

theorem withRest_map (read : Option (α × List Char)) (f : α → β) :
    ((withRest rest read).map fun p => (f p.1, p.2)) =
      withRest rest (read.map fun p => (f p.1, p.2)) := by
  cases read <;> rfl

theorem takeDigits?_append (h : StopsAt isNumberChar rest) (cs : List Char) :
    takeDigits? (cs ++ rest) = withRest rest (takeDigits? cs) := by
  have hdigit : StopsAt Char.isDigit rest := by
    intro c hc
    have hnot := h c hc
    simp only [isNumberChar, Bool.or_eq_false_iff] at hnot
    exact hnot.1.1.1.1.1
  simp only [takeDigits?, Decimal.takeDigits, takeWhile_append_of_stopsAt hdigit,
    dropWhile_append_of_stopsAt hdigit]
  by_cases hempty : (cs.takeWhile Char.isDigit).isEmpty <;> simp [hempty]

theorem takeWhole?_append (h : StopsAt isNumberChar rest) (cs : List Char) :
    takeWhole? (cs ++ rest) = withRest rest (takeWhole? cs) := by
  rw [takeWhole?, takeWhole?, takeDigits?_append h]
  apply withRest_bind
  intro digits after
  dsimp only
  split <;> rfl

theorem takeFraction?_append (h : StopsAt isNumberChar rest) (cs : List Char) :
    takeFraction? (cs ++ rest) = withRest rest (takeFraction? cs) := by
  cases cs with
  | nil =>
      have hpoint : ∀ after, rest = '.' :: after → False := by
        intro after hrest
        subst hrest
        cases h '.' rfl
      rw [List.nil_append, takeFraction?.eq_2 _ hpoint]
      rfl
  | cons c cs =>
      by_cases hpoint : c = '.'
      · subst hpoint
        rw [List.cons_append, takeFraction?, takeFraction?, takeDigits?_append h]
        exact withRest_map _ some
      · rw [List.cons_append, takeFraction?.eq_2 _ (by simp [hpoint]),
          takeFraction?.eq_2 _ (by simp [hpoint])]
        rfl

theorem takeSign_append (h : StopsAt isNumberChar rest) (cs : List Char) :
    Decimal.takeSign (cs ++ rest) =
      ((Decimal.takeSign cs).1, (Decimal.takeSign cs).2 ++ rest) := by
  cases cs with
  | nil =>
      have hsign : ∀ c ∈ rest.head?, c ≠ '-' ∧ c ≠ '+' := by
        intro c hc
        have hnot := h c hc
        constructor
        · intro hc
          subst hc
          cases hnot
        · intro hc
          subst hc
          cases hnot
      cases rest with
      | nil => rfl
      | cons c rest =>
          rw [List.nil_append, Decimal.takeSign.eq_3 _ (by simp [hsign c rfl])
            (by simp [hsign c rfl])]
          rfl
  | cons c cs =>
      by_cases hminus : c = '-'
      · subst hminus
        rfl
      · by_cases hplus : c = '+'
        · subst hplus
          rfl
        · rw [List.cons_append, Decimal.takeSign.eq_3 _ (by simp [hminus]) (by simp [hplus]),
            Decimal.takeSign.eq_3 _ (by simp [hminus]) (by simp [hplus])]
          rfl

theorem takeExponent?_append (h : StopsAt isNumberChar rest) (cs : List Char) :
    takeExponent? (cs ++ rest) = withRest rest (takeExponent? cs) := by
  cases cs with
  | nil =>
      cases rest with
      | nil => rfl
      | cons c rest =>
          have hletter : (c = 'e' || c = 'E') = false := by
            have hnot := h c rfl
            simp only [isNumberChar, Bool.or_eq_false_iff] at hnot
            rw [hnot.1.1.1.2, hnot.1.1.2]
            rfl
          simp only [List.nil_append, takeExponent?, hletter]
          rfl
  | cons c cs =>
      rw [List.cons_append, takeExponent?, takeExponent?]
      by_cases hletter : (c = 'e' || c = 'E') = true
      · simp only [hletter, if_true, takeSign_append h, takeDigits?_append h]
        exact withRest_map (takeDigits? (Decimal.takeSign cs).2) fun digits =>
          let n : Int := Decimal.digitsValue digits
          some (if (Decimal.takeSign cs).1 then -n else n)
      · simp only [hletter]
        rfl

/-- A number without its sign off the front, and what follows. -/
def takeUnsigned? (negative : Bool) (cs : List Char) : Option (Numeral × List Char) := do
  let (whole, cs) ← takeWhole? cs
  let (fraction, cs) ← takeFraction? cs
  let (exponent, cs) ← takeExponent? cs
  pure ({ negative, whole, fraction, exponent }, cs)

theorem takeNumeral?_minus (cs : List Char) :
    takeNumeral? ('-' :: cs) = takeUnsigned? true cs :=
  rfl

theorem takeNumeral?_of_head?_ne {cs : List Char} (h : cs.head? ≠ some '-') :
    takeNumeral? cs = takeUnsigned? false cs := by
  unfold takeNumeral?
  split
  rename_i hsign
  split at hsign
  · exact absurd rfl h
  · cases hsign
    rfl

theorem takeUnsigned?_append (h : StopsAt isNumberChar rest) (negative : Bool)
    (cs : List Char) :
    takeUnsigned? negative (cs ++ rest) = withRest rest (takeUnsigned? negative cs) := by
  rw [takeUnsigned?, takeWhole?_append h]
  apply withRest_bind
  intro whole cs
  dsimp only
  rw [takeFraction?_append h]
  apply withRest_bind
  intro fraction cs
  dsimp only
  rw [takeExponent?_append h]
  apply withRest_bind
  intro exponent cs
  rfl

theorem takeNumeral?_append (h : StopsAt isNumberChar rest) (cs : List Char) :
    takeNumeral? (cs ++ rest) = withRest rest (takeNumeral? cs) := by
  by_cases hminus : cs.head? = some '-'
  · rcases List.head?_eq_some_iff.mp hminus with ⟨cs, rfl⟩
    exact takeUnsigned?_append h true cs
  · have hmore : (cs ++ rest).head? ≠ some '-' := by
      cases cs with
      | nil =>
          intro hhead
          cases h '-' hhead
      | cons c cs =>
          exact hminus
    rw [takeNumeral?_of_head?_ne hminus, takeNumeral?_of_head?_ne hmore,
      takeUnsigned?_append h]

/-- A number starts with a digit or a minus. -/
theorem exists_cons_of_takeNumeral? {cs : List Char} {p : Numeral × List Char}
    (h : takeNumeral? cs = some p) :
    ∃ c rest, cs = c :: rest ∧ (c = '-' || c.isDigit) = true := by
  cases cs with
  | nil =>
      cases h
  | cons c cs =>
      refine ⟨c, cs, rfl, ?_⟩
      by_contra hnot
      rw [Bool.not_eq_true, Bool.or_eq_false_iff] at hnot
      have hminus : (c :: cs).head? ≠ some '-' := by
        simpa using hnot.1
      have hnone : takeDigits? (c :: cs) = none := by
        simp [takeDigits?, Decimal.takeDigits, hnot.2]
      rw [takeNumeral?_of_head?_ne hminus, takeUnsigned?, takeWhole?, hnone] at h
      cases h

/-!
## Integers
-/

theorem head?_toDigits_ne {n : Nat} (h : 0 < n) : (Nat.toDigits 10 n).head? ≠ some '0' := by
  induction n using Nat.base_induction 10 (by decide) with
  | single m hm =>
      rw [Nat.toDigits_of_lt_base hm]
      revert h
      revert m
      decide
  | digit m k hk hm ih =>
      rw [← Nat.toDigits_append_toDigits (by decide) hm hk,
        List.head?_append_of_ne_nil _ Nat.toDigits_ne_nil]
      exact ih hm

theorem takeDigits_toDigits (n : Nat) :
    Decimal.takeDigits (Nat.toDigits 10 n) = (Nat.toDigits 10 n, []) := by
  have hdigits : ∀ c ∈ Nat.toDigits 10 n, c.isDigit = true :=
    fun c hc => Nat.isDigit_of_mem_toDigits (by decide) (by decide) hc
  rw [Decimal.takeDigits, List.takeWhile_eq_self_iff.mpr hdigits,
    List.dropWhile_eq_nil_iff.mpr hdigits]

theorem takeWhole?_toDigits (n : Nat) :
    takeWhole? (Nat.toDigits 10 n) = some (Nat.toDigits 10 n, []) := by
  have hempty : (Nat.toDigits 10 n).isEmpty = false := by
    rw [List.isEmpty_eq_false_iff]
    exact Nat.toDigits_ne_nil
  have htake : takeDigits? (Nat.toDigits 10 n) = some (Nat.toDigits 10 n, []) := by
    simp [takeDigits?, takeDigits_toDigits, hempty]
  rw [takeWhole?, htake]
  rcases n.eq_zero_or_pos with rfl | hpos
  · rfl
  · simp [head?_toDigits_ne hpos]

/-- The numeral of an integer has no fraction and no power of ten. -/
def wholeNumeral (k : Int) : Numeral :=
  { negative := k < 0, whole := Nat.toDigits 10 k.natAbs, fraction := none, exponent := none }

theorem takeNumeral?_writeInteger (k : Int) :
    takeNumeral? (Decimal.writeInteger k) = some (wholeNumeral k, []) := by
  have hunsigned : ∀ negative, takeUnsigned? negative (Nat.toDigits 10 k.natAbs) =
      some ({ negative, whole := Nat.toDigits 10 k.natAbs, fraction := none,
              exponent := none }, []) := by
    intro negative
    rw [takeUnsigned?, takeWhole?_toDigits]
    rfl
  by_cases hneg : k < 0
  · have hwritten : Decimal.writeInteger k = '-' :: Nat.toDigits 10 k.natAbs := by
      rw [Decimal.writeInteger, if_pos hneg]
      rfl
    rw [hwritten, takeNumeral?_minus, hunsigned, wholeNumeral, decide_eq_true hneg]
  · have hwritten : Decimal.writeInteger k = Nat.toDigits 10 k.natAbs := by
      rw [Decimal.writeInteger, if_neg hneg]
      rfl
    have hminus : (Nat.toDigits 10 k.natAbs).head? ≠ some '-' := by
      intro hhead
      have hdigit := Nat.isDigit_of_mem_toDigits (by decide) (by decide)
        (List.mem_of_mem_head? hhead)
      cases hdigit
    rw [hwritten, takeNumeral?_of_head?_ne hminus, hunsigned, wholeNumeral,
      decide_eq_false hneg]

theorem le_ofDigitChars (cs : List Char) (n : Nat) : n ≤ Nat.ofDigitChars 10 cs n := by
  induction cs generalizing n with
  | nil =>
      rw [Nat.ofDigitChars_nil]
  | cons c cs ih =>
      rw [Nat.ofDigitChars_cons]
      calc n ≤ 10 * n + (c.toNat - '0'.toNat) := by omega
        _ ≤ _ := ih _

/-- Digits are dropped only from where they pass the bound, and prefixes stay below it. -/
theorem absorb_eq {cs : List Char} {n : Nat} (h : Nat.ofDigitChars 10 cs n < significandBound) :
    absorb n cs = (Nat.ofDigitChars 10 cs n, 0) := by
  induction cs generalizing n with
  | nil =>
      rw [Nat.ofDigitChars_nil]
      rfl
  | cons c cs ih =>
      rw [Nat.ofDigitChars_cons] at h ⊢
      have hnext := Nat.lt_of_le_of_lt (le_ofDigitChars cs _) h
      rw [absorb, if_pos hnext, ih h]

theorem value?_wholeNumeral {k : Int} (h : k.natAbs < significandBound) :
    (wholeNumeral k).value? = some (Float.ofInt k) := by
  have habsorb : absorb 0 (Nat.toDigits 10 k.natAbs) = (k.natAbs, 0) := by
    rw [absorb_eq] <;> rw [Nat.ofDigitChars_ten_toDigits]
    exact h
  have hmagnitude : (wholeNumeral k).magnitude? = some (Float.ofNat k.natAbs) := by
    simp only [Numeral.magnitude?, wholeNumeral, habsorb]
  rw [Numeral.value?, hmagnitude]
  cases k with
  | ofNat n =>
      have hsign : decide (Int.ofNat n < 0) = false :=
        decide_eq_false (Int.not_lt.mpr (Int.natCast_nonneg n))
      simp only [wholeNumeral, hsign]
      rfl
  | negSucc n =>
      have hsign : decide (Int.negSucc n < 0) = true :=
        decide_eq_true (Int.negSucc_lt_zero n)
      simp only [wholeNumeral, hsign]
      rfl

/-!
## Whole texts
-/

/-- The number that the whole text is read as. -/
def readNumber? (cs : List Char) : Option Float :=
  match takeNumeral? cs with
  | some (numeral, []) => numeral.value?
  | _ => none

theorem readNumber?_eq_some_iff {cs : List Char} {x : Float} :
    readNumber? cs = some x ↔ ∃ numeral, takeNumeral? cs = some (numeral, []) ∧
      numeral.value? = some x := by
  unfold readNumber?
  split
  · rename_i numeral htake
    simp [htake]
  · rename_i hnot
    constructor
    · intro h
      cases h
    · intro h
      rcases h with ⟨numeral, htake, _⟩
      exact absurd htake (hnot numeral)

theorem readNumber?_writeInteger {x : Float} {k : Int} (h : Cell.writtenInteger? x = some k) :
    readNumber? (Decimal.writeInteger k) = some (Decimal.unsignZero x) := by
  rcases Decimal.exists_parts_of_writtenInteger? h with ⟨_, _, _, hbound⟩
  have hlt : k.natAbs < significandBound := by
    simp only [Cell.integerBound, significandBound] at hbound ⊢
    omega
  rw [readNumber?_eq_some_iff]
  refine ⟨wholeNumeral k, takeNumeral?_writeInteger k, ?_⟩
  rw [value?_wholeNumeral hlt, Decimal.ofInt_of_writtenInteger? h]

end Json
end TableQuery
