import TableQuery.Json.Text

/-!
# Strings written and read

Every character is written in one of three ways, and what is written is read as the one
unit that is its code point.  Code points of characters never pair up, so the units of a
string stand for the string itself.
-/

namespace TableQuery
namespace Json

/-!
## Characters
-/

theorem hexValue?_hexDigit (n : Nat) : hexValue? (hexDigit n) = some (n % 16) := by
  have hdigits : ∀ d < 16, hexValue? (Nat.digitChar d) = some d := by
    decide
  exact hdigits (n % 16) (Nat.mod_lt n (by decide))

theorem hexUnit?_control {n : Nat} (h : n < 0x20) :
    hexUnit? '0' '0' (hexDigit (n / 16)) (hexDigit n) = some n := by
  have hzero : hexValue? '0' = some 0 := rfl
  have hvalue : n / 16 % 16 * 16 + n % 16 = n := by
    omega
  simp [hexUnit?, hzero, hexValue?_hexDigit, hvalue]

theorem takeUnits?_escape {c : Char} {n : Nat} (h : escapeUnit? c = some n) (hc : c ≠ 'u')
    (cs : List Char) :
    takeUnits? ('\\' :: c :: cs) = (takeUnits? cs).map fun p => (n :: p.1, p.2) := by
  rw [takeUnits?.eq_3 _ _ (by simp [hc]), h]
  cases takeUnits? cs <;> rfl

theorem takeUnits?_hex {n : Nat} (h : n < 0x20) (cs : List Char) :
    takeUnits? ('\\' :: 'u' :: '0' :: '0' :: hexDigit (n / 16) :: hexDigit n :: cs) =
      (takeUnits? cs).map fun p => (n :: p.1, p.2) := by
  rw [takeUnits?, hexUnit?_control h]
  cases takeUnits? cs <;> rfl

theorem takeUnits?_plain {c : Char} (hquote : c ≠ '\x22') (hslash : c ≠ '\\')
    (hcontrol : ¬c.toNat < 0x20) (cs : List Char) :
    takeUnits? (c :: cs) = (takeUnits? cs).map fun p => (c.toNat :: p.1, p.2) := by
  rw [takeUnits?.eq_4 _ _ (by simp [hslash]) (by simp [hslash]), if_neg hquote,
    if_neg (by simp [hslash, hcontrol])]
  cases takeUnits? cs <;> rfl

theorem takeUnits?_quote (cs : List Char) : takeUnits? ('\x22' :: cs) = some ([], cs) := by
  rw [takeUnits?.eq_4 _ _ (by simp) (by simp), if_pos rfl]

theorem takeUnits?_writeChar (c : Char) (cs : List Char) :
    takeUnits? (writeChar c ++ cs) =
      (takeUnits? cs).map fun p => (c.toNat :: p.1, p.2) := by
  have hescape : ∀ letter n, escapeUnit? letter = some n → letter ≠ 'u' → c.toNat = n →
      takeUnits? (['\\', letter] ++ cs) =
        (takeUnits? cs).map fun p => (c.toNat :: p.1, p.2) := by
    intro letter n hunit hletter hn
    rw [hn]
    exact takeUnits?_escape hunit hletter cs
  unfold writeChar
  split
  · rename_i hc
    exact hescape '\x22' 0x22 rfl (by decide) (congrArg Char.toNat hc)
  split
  · rename_i hc
    exact hescape '\\' 0x5C rfl (by decide) (congrArg Char.toNat hc)
  split
  · rename_i hc
    exact hescape 'b' 0x08 rfl (by decide) hc
  split
  · rename_i hc
    exact hescape 't' 0x09 rfl (by decide) hc
  split
  · rename_i hc
    exact hescape 'n' 0x0A rfl (by decide) hc
  split
  · rename_i hc
    exact hescape 'f' 0x0C rfl (by decide) hc
  split
  · rename_i hc
    exact hescape 'r' 0x0D rfl (by decide) hc
  split
  · rename_i hcontrol
    exact takeUnits?_hex hcontrol cs
  · rename_i hquote hslash _ _ _ _ _ hcontrol
    exact takeUnits?_plain hquote hslash hcontrol cs

/-!
## Strings
-/

theorem takeUnits?_written (s rest : List Char) :
    takeUnits? (s.flatMap writeChar ++ '\x22' :: rest) = some (s.map Char.toNat, rest) := by
  induction s with
  | nil =>
      exact takeUnits?_quote rest
  | cons c s ih =>
      rw [List.flatMap_cons, List.append_assoc, takeUnits?_writeChar, ih]
      rfl

theorem not_surrogate (c : Char) : c.toNat < 0xD800 ∨ 0xDFFF < c.toNat := by
  have hvalid : c.toNat < 0xD800 ∨ 0xDFFF < c.toNat ∧ c.toNat < 0x110000 := c.valid
  exact hvalid.imp_right And.left

theorem isLeading_toNat (c : Char) : isLeading c.toNat = false := by
  have hnot := not_surrogate c
  simp only [isLeading, Bool.and_eq_false_iff, decide_eq_false_iff_not]
  omega

theorem isTrailing_toNat (c : Char) : isTrailing c.toNat = false := by
  have hnot := not_surrogate c
  simp only [isTrailing, Bool.and_eq_false_iff, decide_eq_false_iff_not]
  omega

theorem textOfUnits?_map_toNat (s : List Char) : textOfUnits? (s.map Char.toNat) = some s := by
  induction s with
  | nil =>
      rfl
  | cons c s ih =>
      rw [List.map_cons, textOfUnits?.eq_def]
      simp only [isLeading_toNat, isTrailing_toNat, Bool.false_eq_true, if_false, ih,
        Option.map_some, Char.ofNat_toNat]

end Json
end TableQuery
