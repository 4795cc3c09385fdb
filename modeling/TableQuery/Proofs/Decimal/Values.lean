import Mathlib.Algebra.Order.Field.Power
import Mathlib.Data.Rat.Cast.Order
import Mathlib.Order.Compare
import Mathlib.Tactic.Positivity
import Mathlib.Tactic.Ring
import TableQuery.Proofs.Decimal.Integers

/-!
# The values of numbers

A finite floating-point number is a rational number.  Finite numbers are ordered as their
values are, and only the two zeros have one value.
-/

namespace TableQuery
namespace Decimal

open Float.Model UnpackedFloat

def magnitude (m : Nat) (e : Int) : ℚ :=
  m * 2 ^ e

/-- The rational number with these parts. -/
def Binary.value (b : Binary) : ℚ :=
  if b.negative then -magnitude b.significand b.exponent else magnitude b.significand b.exponent

/-- The rational number that a finite number is. -/
def value (x : Float) : ℚ :=
  match kind x with
  | .finite b => b.value
  | _ => 0

theorem value_of_kind {x : Float} {b : Binary} (h : kind x = .finite b) : value x = b.value := by
  rw [value, h]

theorem magnitude_pos {m : Nat} (hm : 0 < m) (e : Int) : 0 < magnitude m e := by
  unfold magnitude
  positivity

/-!
## Finite numbers unpacked
-/

def signed : Sign → ℚ → ℚ
  | .positive, q => q
  | .negative, q => -q

/-- The parts that a finite number can have: the leading bit of the significand is set, but
for the least exponent. -/
structure IsCanonical (m : Nat) (e : Int) : Prop where
  lt : m < 2 * leadingBit
  full : leadingBit ≤ m ∨ e = -1074
  least : -1074 ≤ e

theorem isCanonical_of_kind {x : Float} {b : Binary} (h : kind x = .finite b) :
    IsCanonical b.significand b.exponent := by
  have hbounds := bounds_of_kind h
  refine ⟨hbounds.1, hbounds.2, ?_⟩
  unfold kind kindOfBits at h
  dsimp only at h
  split at h
  · split at h <;> cases h
  · split at h
    · cases h
      exact le_refl _
    · cases h
      dsimp only
      omega

theorem unpack_of_isFinite {x : Float} (h : isFinite x = true) :
    (∃ s, x.toModel.unpack = .zero s ∧ value x = 0) ∨
      ∃ s m e, ∃ hm : 0 < m, x.toModel.unpack = .finite s m e hm ∧
        value x = signed s (magnitude m e) ∧ IsCanonical m e := by
  rcases isFinite_iff_exists.mp h with ⟨b, hb⟩
  have hcanonical := isCanonical_of_kind hb
  rcases unpack_of_kind hb with ⟨s, hs, rfl⟩ | ⟨s, m, e, hm, hs, rfl⟩
  · refine Or.inl ⟨s, hs, ?_⟩
    rw [value_of_kind hb]
    simp [Binary.value, magnitude]
  · refine Or.inr ⟨s, m, e, hm, hs, ?_, hcanonical⟩
    rw [value_of_kind hb]
    cases s <;> rfl

/-!
## Order
-/

theorem magnitude_lt_of_exponent_lt {m n : Nat} {e f : Int} (hm : m < 2 * leadingBit)
    (hn : leadingBit ≤ n) (h : e < f) : magnitude m e < magnitude n f := by
  have hpow : (2 : ℚ) ^ (e + 1) ≤ 2 ^ f := zpow_le_zpow_right₀ (by norm_num) h
  have hm' : (m : ℚ) < 2 * leadingBit := by exact_mod_cast hm
  have hn' : (leadingBit : ℚ) ≤ n := by exact_mod_cast hn
  calc magnitude m e < 2 * leadingBit * 2 ^ e := mul_lt_mul_of_pos_right hm' (by positivity)
    _ = leadingBit * 2 ^ (e + 1) := by
        rw [zpow_add_one₀ (by norm_num)]
        ring
    _ ≤ magnitude n f := mul_le_mul hn' hpow (by positivity) (by positivity)

/-- The exponents decide, and the significands between equal exponents. -/
theorem cmp_magnitude {m n : Nat} {e f : Int} (hm : IsCanonical m e) (hn : IsCanonical n f) :
    cmp (magnitude m e) (magnitude n f) = (compare e f).then (compare m n) := by
  rcases lt_trichotomy e f with hlt | heq | hgt
  · have hfull : leadingBit ≤ n := hn.full.resolve_right (by have := hm.least; omega)
    rw [(magnitude_lt_of_exponent_lt hm.lt hfull hlt).cmp_eq_lt, compare_lt_iff_lt.mpr hlt]
    rfl
  · subst heq
    rw [compare_eq_iff_eq.mpr rfl, magnitude, magnitude, cmp_mul_pos_right (by positivity),
      Nat.strictMono_cast.cmp_map_eq, cmp_eq_compare]
    rfl
  · have hfull : leadingBit ≤ m := hm.full.resolve_right (by have := hn.least; omega)
    rw [(magnitude_lt_of_exponent_lt hn.lt hfull hgt).cmp_eq_gt, compare_gt_iff_gt.mpr hgt]
    rfl

theorem cmp_neg_neg (q r : ℚ) : cmp (-q) (-r) = (cmp q r).swap := by
  rw [cmp_swap]
  exact StrictAnti.cmp_map_eq (fun _ _ h => neg_lt_neg h) q r

/-- Finite numbers are ordered as their values are. -/
theorem compare_eq_cmp_value {x y : Float} (hx : isFinite x = true) (hy : isFinite y = true) :
    x.toModel.compare y.toModel = some (cmp (value x) (value y)) := by
  rw [Float.Model.compare]
  rcases unpack_of_isFinite hx with ⟨s, hs, hvx⟩ | ⟨s, m, e, hm, hs, hvx, hcx⟩
  · rcases unpack_of_isFinite hy with ⟨t, ht, hvy⟩ | ⟨t, n, f, hn, ht, hvy, hcy⟩
    · rw [hs, ht, hvx, hvy, cmp_self_eq_eq]
      rfl
    · have hpos := magnitude_pos hn f
      rw [hs, ht, hvx, hvy]
      cases t with
      | positive =>
          rw [signed, hpos.cmp_eq_lt]
          rfl
      | negative =>
          rw [signed, (neg_lt_zero.mpr hpos).cmp_eq_gt]
          rfl
  · have hpos := magnitude_pos hm e
    rcases unpack_of_isFinite hy with ⟨t, ht, hvy⟩ | ⟨t, n, f, hn, ht, hvy, hcy⟩
    · rw [hs, ht, hvx, hvy]
      cases s with
      | positive =>
          rw [signed, hpos.cmp_eq_gt]
          rfl
      | negative =>
          rw [signed, (neg_lt_zero.mpr hpos).cmp_eq_lt]
          rfl
    · have hpos' := magnitude_pos hn f
      rw [hs, ht, hvx, hvy]
      cases s with
      | positive =>
          cases t with
          | positive =>
              rw [signed, signed, cmp_magnitude hcx hcy]
              rfl
          | negative =>
              rw [signed, signed, ((neg_lt_zero.mpr hpos').trans hpos).cmp_eq_gt]
              rfl
      | negative =>
          cases t with
          | positive =>
              rw [signed, signed, ((neg_lt_zero.mpr hpos).trans hpos').cmp_eq_lt]
              rfl
          | negative =>
              rw [signed, signed, cmp_neg_neg, cmp_magnitude hcx hcy]
              rfl

theorem lt_iff_value_lt {x y : Float} (hx : isFinite x = true) (hy : isFinite y = true) :
    x < y ↔ value x < value y := by
  rw [Cell.lt_iff_compare, compare_eq_cmp_value hx hy, Option.some_inj, cmp_eq_lt_iff]

theorem beq_iff_value_eq {x y : Float} (hx : isFinite x = true) (hy : isFinite y = true) :
    (x == y) = true ↔ value x = value y := by
  rw [Cell.beq_iff_compare, compare_eq_cmp_value hx hy, Option.some_inj, cmp_eq_eq_iff]

theorem le_iff_value_le {x y : Float} (hx : isFinite x = true) (hy : isFinite y = true) :
    x ≤ y ↔ value x ≤ value y := by
  have hle : x ≤ y ↔ (x.toModel.compare y.toModel).any Ordering.isLE = true := by
    show decide (x.toModel ≤ y.toModel) = true ↔ _
    rw [decide_eq_true_iff]
    rfl
  rw [hle, compare_eq_cmp_value hx hy, Option.any_some, ← not_lt, ← cmp_eq_gt_iff]
  cases cmp (value x) (value y) <;> decide

/-- A number other than zero is determined by its value. -/
theorem eq_of_value_eq {x y : Float} (hx : isFinite x = true) (hy : isFinite y = true)
    (h : value x = value y) (hne : value x ≠ 0) : x = y := by
  have hbeq : x.toModel.unpack.beq y.toModel.unpack = true := (beq_iff_value_eq hx hy).mpr h
  have hzero : ∀ s, x.toModel.unpack ≠ .zero s := by
    intro s hs
    rcases unpack_of_isFinite hx with ⟨_, _, hvx⟩ | ⟨_, _, _, _, hfinite, _⟩
    · exact hne hvx
    · rw [hs] at hfinite
      cases hfinite
  rcases (beq_iff_ne_notANumber_and_eq _ _).mp hbeq with ⟨_, _, hsame | ⟨hs, _⟩ | ⟨hs, _⟩⟩
  · apply kind_inj
    rw [kind_eq, kind_eq, hsame]
  · exact absurd hs (hzero _)
  · exact absurd hs (hzero _)

end Decimal
end TableQuery
