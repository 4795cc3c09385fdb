import Mathlib.Data.List.Basic
import TableQuery.Cell

/-!
# Characters of numbers

A number is written without blanks, in whatever style.  So the blanks that are shown of a cell
are those of its text.
-/

namespace TableQuery

namespace Text

theorem isBlank_of_isDigit {c : Char} (h : c.isDigit = true) : isBlank c = false := by
  have hrange : 48 ≤ c.toNat ∧ c.toNat ≤ 57 := by
    simpa [Char.isDigit, UInt32.le_iff_toNat_le] using h
  rw [Bool.eq_false_iff]
  intro hblank
  simp only [isBlank, Bool.or_eq_true, Bool.and_eq_true, decide_eq_true_eq, beq_iff_eq] at hblank
  omega

/-- No character of the text is a blank. -/
def IsSolid (cs : List Char) : Prop :=
  ∀ c ∈ cs, isBlank c = false

instance : DecidablePred IsSolid := fun cs =>
  decidable_of_iff (cs.all (fun c => !isBlank c) = true) (by simp [IsSolid])

section Solid

variable {c : Char} {xs ys : List Char}

theorem isSolid_cons : IsSolid (c :: xs) ↔ isBlank c = false ∧ IsSolid xs :=
  List.forall_mem_cons

theorem isSolid_append : IsSolid (xs ++ ys) ↔ IsSolid xs ∧ IsSolid ys :=
  List.forall_mem_append

theorem IsSolid.notMem (h : IsSolid xs) (hc : isBlank c = true) : c ∉ xs := by
  intro hmem
  rw [h c hmem] at hc
  cases hc

theorem isSolid_replicate (h : isBlank c = false) (n : Nat) : IsSolid (List.replicate n c) := by
  intro d hd
  rw [List.eq_of_mem_replicate hd]
  exact h

theorem IsSolid.take (h : IsSolid xs) (n : Nat) : IsSolid (xs.take n) :=
  fun c hc => h c (List.mem_of_mem_take hc)

theorem IsSolid.drop (h : IsSolid xs) (n : Nat) : IsSolid (xs.drop n) :=
  fun c hc => h c (List.mem_of_mem_drop hc)

end Solid

end Text

/-!
## Numbers as they are written
-/

namespace Decimal

open Text (IsSolid isSolid_append isSolid_cons isSolid_replicate)

theorem isSolid_toDigits (n : Nat) : IsSolid (Nat.toDigits 10 n) := by
  intro c hc
  exact Text.isBlank_of_isDigit (Nat.isDigit_of_mem_toDigits (by decide) (by decide) hc)

theorem isSolid_writeInteger (k : Int) : IsSolid (writeInteger k) := by
  rw [writeInteger, isSolid_append]
  constructor
  · split <;> decide
  · exact isSolid_toDigits _

namespace Style

variable {digits : List Char}

theorem isSolid_writePositional (s : Style) (point : Int) (h : IsSolid digits) :
    IsSolid (s.writePositional digits point) := by
  have hzeros : ∀ n, IsSolid (List.replicate n '0') := isSolid_replicate (by decide)
  have hpoint : Text.isBlank '.' = false := by decide
  unfold writePositional
  split
  · rw [isSolid_cons, isSolid_cons, isSolid_append]
    exact ⟨by decide, hpoint, hzeros _, h⟩
  · split
    · rw [isSolid_append, isSolid_append]
      refine ⟨⟨h, hzeros _⟩, ?_⟩
      split <;> decide
    · rw [isSolid_append, isSolid_cons]
      exact ⟨h.take _, hpoint, h.drop _⟩

theorem isSolid_writeScientific (exponent : Int) (h : IsSolid digits) :
    IsSolid (writeScientific digits exponent) := by
  unfold writeScientific
  dsimp only
  rw [isSolid_append, isSolid_cons, isSolid_cons]
  refine ⟨?_, by decide, ?_, isSolid_toDigits _⟩
  · split
    · rw [isSolid_cons, isSolid_cons] at h ⊢
      exact ⟨h.1, by decide, isSolid_cons.mpr h.2⟩
    · exact h
  · split <;> decide

theorem isSolid_write (s : Style) (b : Binary) : IsSolid (s.write b) := by
  rw [write, isSolid_append]
  constructor
  · split <;> decide
  · unfold writeScaled
    dsimp only
    split
    · exact isSolid_writePositional s _ (isSolid_toDigits _)
    · split
      · exact isSolid_writePositional s _ (isSolid_toDigits _)
      · exact isSolid_writeScientific _ (isSolid_toDigits _)

end Style
end Decimal

namespace Cell

theorem isSolid_displayNumber (x : Float) : Text.IsSolid (displayNumber x) := by
  unfold displayNumber
  split
  · exact Decimal.isSolid_writeInteger _
  · split
    · exact Decimal.Style.isSolid_write _ _
    · decide
    · decide
    · decide

end Cell
end TableQuery
