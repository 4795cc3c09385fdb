import Mathlib
import TableQuery.Decimal.Binary

/-!
# The parts of a number

The bits of a floating-point number hold its sign, its significand and its exponent.  The
logical model of floating-point numbers unpacks the same parts from them, so a number is
determined by its parts, and what its operations do to the parts is known.

The lemmas on that model belong to no module of Mathlib alone, so the whole of it is imported.
-/

namespace TableQuery
namespace Decimal

open Float.Model

/-!
## Fields of the bits
-/

section Fields

variable (b : BitVec Format.binary64.numBits)

theorem toNat_unpackExponent :
    (UnpackedFloat.unpackExponent b).toNat = b.toNat / leadingBit % 0x800 := by
  rw [UnpackedFloat.unpackExponent_def, BitVec.extractLsb'_toNat, Nat.shiftRight_eq_div_pow]
  rfl

theorem toNat_unpackMantissa :
    (UnpackedFloat.unpackMantissa b).toNat = b.toNat % leadingBit := by
  rw [UnpackedFloat.unpackMantissa_def, BitVec.extractLsb'_toNat, Nat.shiftRight_eq_div_pow]
  simp [leadingBit]

theorem toNat_unpackSign : (UnpackedFloat.unpackSign b).toNat = b.toNat / signBit := by
  have hlt : b.toNat < 2 ^ 64 := b.isLt
  rw [UnpackedFloat.unpackSign_def, BitVec.extractLsb'_toNat, Nat.shiftRight_eq_div_pow]
  simp only [Nat.pow_one, signBit]
  omega

theorem ofBitVec_unpackSign :
    (UnpackedFloat.Sign.ofBitVec (UnpackedFloat.unpackSign b) == .negative) =
      (b.toNat / signBit == 1) := by
  rw [← toNat_unpackSign]
  generalize UnpackedFloat.unpackSign b = sign
  revert sign
  decide

theorem toNat_append_leading (m : BitVec 52) : (1#1 ++ m).toNat = m.toNat + leadingBit := by
  rw [BitVec.toNat_append, ← Nat.shiftLeft_add_eq_or_of_lt m.isLt, Nat.add_comm]
  rfl

end Fields

/-!
## Unpacked numbers
-/

def kindOf : UnpackedFloat → Kind
  | .infinity s => .infinite (s == .negative)
  | .notANumber => .notANumber
  | .zero s => .finite { negative := s == .negative, significand := 0, exponent := -1074 }
  | .finite s m e _ => .finite { negative := s == .negative, significand := m, exponent := e }

theorem sign_beq_negative_inj {s t : UnpackedFloat.Sign}
    (h : (s == .negative) = (t == .negative)) : s = t := by
  cases s <;> cases t
  · rfl
  · cases h
  · cases h
  · rfl

theorem kindOf_inj {u v : UnpackedFloat} (h : kindOf u = kindOf v) : u = v := by
  cases u <;> cases v <;> simp only [kindOf, Kind.finite.injEq, Kind.infinite.injEq,
    Binary.mk.injEq, reduceCtorEq] at h
  case infinity.infinity s t =>
      rw [sign_beq_negative_inj h]
  case notANumber.notANumber =>
      rfl
  case zero.zero s t =>
      rw [sign_beq_negative_inj h.1]
  case zero.finite s t m e hm =>
      omega
  case finite.zero s m e hm t =>
      omega
  case finite.finite s m e hm t n f hn =>
      rcases h with ⟨hsign, rfl, rfl⟩
      rw [sign_beq_negative_inj hsign]

theorem kindOfBits_eq (b : BitVec Format.binary64.numBits) :
    kindOfBits b.toNat = kindOf (UnpackedFloat.unpack Format.binary64 b) := by
  have hones : UnpackedFloat.unpackExponent b = -BitVec.ofNat Format.binary64.exponentBits 1 ↔
      (UnpackedFloat.unpackExponent b).toNat = 2047 := by
    rw [← BitVec.toNat_inj]
    rfl
  have hzeros : UnpackedFloat.unpackExponent b = BitVec.ofNat Format.binary64.exponentBits 0 ↔
      (UnpackedFloat.unpackExponent b).toNat = 0 := by
    rw [← BitVec.toNat_inj]
    rfl
  have hempty : UnpackedFloat.unpackMantissa b =
      BitVec.ofNat Format.binary64.mantissaBitsWithoutImplicit 0 ↔
        (UnpackedFloat.unpackMantissa b).toNat = 0 := by
    rw [← BitVec.toNat_inj]
    rfl
  unfold kindOfBits UnpackedFloat.unpack
  dsimp only
  rw [← toNat_unpackExponent, ← toNat_unpackMantissa, ← ofBitVec_unpackSign]
  simp only [hones, hzeros, hempty]
  split
  · split <;> rfl
  · split
    · rename_i hexponent
      split
      · rename_i hmantissa
        rw [hmantissa]
        rfl
      · simp only [kindOf]
        congr 2
        rw [hexponent]
        rfl
    · simp only [kindOf]
      congr 2
      exact (toNat_append_leading _).symm

theorem kind_eq (x : Float) : kind x = kindOf x.toModel.unpack :=
  kindOfBits_eq x.toModel.toBits.toBitVec

theorem unpack_of_kind {x : Float} {b : Binary} (h : kind x = .finite b) :
    (∃ s, x.toModel.unpack = .zero s ∧
      b = { negative := s == .negative, significand := 0, exponent := -1074 }) ∨
    (∃ s m e, ∃ hm : 0 < m, x.toModel.unpack = .finite s m e hm ∧
      b = { negative := s == .negative, significand := m, exponent := e }) := by
  rw [kind_eq] at h
  cases hparts : x.toModel.unpack with
  | infinity s =>
      rw [hparts] at h
      cases h
  | notANumber =>
      rw [hparts] at h
      cases h
  | zero s =>
      rw [hparts] at h
      cases h
      exact Or.inl ⟨s, rfl, rfl⟩
  | finite s m e hm =>
      rw [hparts] at h
      cases h
      exact Or.inr ⟨s, m, e, hm, rfl, rfl⟩

theorem isFinite_iff_exists {x : Float} : isFinite x = true ↔ ∃ b, kind x = .finite b := by
  unfold isFinite
  split
  · rename_i b hkind
    simp [hkind]
  · rename_i hnot
    constructor
    · intro h
      cases h
    · intro h
      rcases h with ⟨b, hkind⟩
      exact absurd hkind (hnot b)

/-- A number is determined by its parts. -/
theorem kind_inj {x y : Float} (h : kind x = kind y) : x = y := by
  rw [kind_eq, kind_eq] at h
  have hunpack : x.toModel.unpack = y.toModel.unpack := kindOf_inj h
  have hbits : x.toModel.toBits.toBitVec = y.toModel.toBits.toBitVec :=
    (UnpackedFloat.unpack_inj_of_valid x.toModel.valid y.toModel.valid).mp hunpack
  exact Float.toBits_inj.mp (UInt64.toBitVec_inj.mp hbits)

/-- The bit in front of the fraction is set, but for the least exponent. -/
theorem bounds_of_kind {x : Float} {b : Binary} (h : kind x = .finite b) :
    b.significand < 2 * leadingBit ∧ (leadingBit ≤ b.significand ∨ b.exponent = -1074) := by
  unfold kind kindOfBits at h
  dsimp only at h
  have hfraction : x.toBits.toNat % leadingBit < leadingBit := Nat.mod_lt _ (by decide)
  split at h
  · split at h <;> cases h
  · split at h
    · cases h
      constructor
      · dsimp only
        omega
      · exact Or.inr rfl
    · cases h
      constructor
      · dsimp only
        omega
      · exact Or.inl (Nat.le_add_left _ _)

/-!
## Packing
-/

/-- The significand has all of its bits, and the exponent is in bounds. -/
def IsNormal (m : Nat) (e : Int) : Prop :=
  (leadingBit ≤ m ∧ m < 2 * leadingBit) ∧ -1074 ≤ e ∧ e ≤ 971

theorem IsNormal.log2_eq {m : Nat} {e : Int} (h : IsNormal m e) : m.log2 = 52 := by
  have hm := h.1
  simp only [leadingBit] at hm
  rw [Nat.log2_eq_iff (by omega)]
  omega

theorem pack_of_isNormal {s : UnpackedFloat.Sign} {m : Nat} {e : Int} (hm : 0 < m)
    (h : IsNormal m e) :
    UnpackedFloat.pack Format.binary64 (.finite s m e hm) =
      UnpackedFloat.packComponents Format.binary64 s (BitVec.ofNat 11 (e + 1075).toNat)
        (BitVec.ofNat 52 m) := by
  have hbounds := h.2
  have hbiased : (e + Format.binary64.exponentBias +
      Format.binary64.mantissaBitsWithoutImplicit).toNat = (e + 1075).toNat := by
    rw [Int.add_assoc]
    rfl
  rw [UnpackedFloat.pack.eq_4]
  dsimp only
  rw [hbiased, h.log2_eq, if_neg, if_pos]
  · rfl
  · show ¬2 ^ 11 ≤ (e + 1075).toNat + 1
    omega

theorem unpack_pack_of_isNormal {s : UnpackedFloat.Sign} {m : Nat} {e : Int} (hm : 0 < m)
    (h : IsNormal m e) :
    UnpackedFloat.unpack Format.binary64 (UnpackedFloat.pack Format.binary64
      (.finite s m e hm)) = .finite s m e hm := by
  have hbounds := h
  simp only [IsNormal, leadingBit] at hbounds
  have hexponent : (BitVec.ofNat 11 (e + 1075).toNat).toNat = (e + 1075).toNat := by
    rw [BitVec.toNat_ofNat]
    omega
  have hmantissa : (1#1 ++ BitVec.ofNat 52 m).toNat = m := by
    rw [toNat_append_leading, BitVec.toNat_ofNat]
    simp only [leadingBit]
    omega
  have hones : BitVec.ofNat 11 (e + 1075).toNat ≠ -1#11 := by
    rw [ne_eq, ← BitVec.toNat_inj, hexponent]
    show ¬(e + 1075).toNat = 2047
    omega
  have hzeros : BitVec.ofNat 11 (e + 1075).toNat ≠ 0#11 := by
    rw [ne_eq, ← BitVec.toNat_inj, hexponent]
    show ¬(e + 1075).toNat = 0
    omega
  rw [pack_of_isNormal hm h, UnpackedFloat.unpack]
  dsimp only
  simp only [UnpackedFloat.unpackExponent_packComponents,
    UnpackedFloat.unpackMantissa_packComponents, UnpackedFloat.unpackSign_packComponents,
    UnpackedFloat.Sign.ofBitVec_toBitVec]
  rw [if_neg hones, if_neg hzeros]
  simp only [hexponent, hmantissa]
  congr 1
  show ((e + 1075).toNat : Int) - (1023 + 52) = e
  omega

end Decimal
end TableQuery
