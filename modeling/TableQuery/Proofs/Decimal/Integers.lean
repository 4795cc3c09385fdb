import TableQuery.Proofs.Cell.Order
import TableQuery.Proofs.Decimal.Parts

/-!
# Integers among the numbers

An integer of at most 53 bits is a floating-point number, and only zero is two of them.  So
the integer that a number is written as gives the number back, up to the sign of a zero.
-/

namespace TableQuery
namespace Decimal

open Float.Model UnpackedFloat

/-!
## Rounding where nothing is lost
-/

theorem repeat_shiftRightOne (m j : Nat) :
    Nat.repeat ExtendedMantissa.shiftRightOne j ⟨m * 2 ^ j, false, false⟩ =
      ⟨m, false, false⟩ := by
  induction j generalizing m with
  | zero => simp [Nat.repeat]
  | succ j ih =>
      rw [Nat.repeat, Nat.pow_succ', ← Nat.mul_assoc, ih]
      simp [ExtendedMantissa.shiftRightOne]

theorem log2_mul_two_pow {m : Nat} (hm : 0 < m) (j : Nat) : (m * 2 ^ j).log2 = m.log2 + j := by
  have hne : m ≠ 0 := hm.ne'
  rw [Nat.log2_eq_iff (Nat.mul_ne_zero hne (Nat.two_pow_pos j).ne')]
  have hlog := (Nat.log2_eq_iff hne).mp rfl
  constructor
  · rw [Nat.pow_add]
    exact Nat.mul_le_mul_right _ hlog.1
  · rw [Nat.add_right_comm, Nat.pow_add]
    exact Nat.mul_lt_mul_of_pos_right hlog.2 (Nat.two_pow_pos j)

theorem targetExponent_eq (m : Nat) (e : Int) :
    Format.binary64.targetExponent (totalExponent m e) = max (m.log2 + e - 52) (-1074) := by
  rw [Format.targetExponent, totalExponent]
  show max ((m.log2 : Int) + 1 + e - 53) (-1074) = _
  congr 1
  omega

variable {s : Sign} {m : Nat} {e : Int} {j : Nat}

theorem shiftToTargetExponent_of_isNormal (hm : 0 < m) (h : IsNormal m (e + j)) :
    shiftToTargetExponent Format.binary64 (m * 2 ^ j) e .exact =
      (⟨m, false, false⟩, e + j) := by
  have hexponent := h.2
  have htarget : max (((m * 2 ^ j).log2 : Int) + e - 52) (-1074) = e + j := by
    rw [log2_mul_two_pow hm, h.log2_eq]
    push_cast
    omega
  have hshift : (e + j - e).toNat = j := by
    omega
  rw [shiftToTargetExponent, targetExponent_eq, htarget, shiftToExponent]
  simp only [hshift]
  congr 1
  exact repeat_shiftRightOne m j

theorem roundWithAccuracy_of_isNormal (hm : 0 < m) (h : IsNormal m (e + j)) :
    roundWithAccuracy Format.binary64 s (m * 2 ^ j) e .exact = .finite s m (e + j) hm := by
  have hsecond : shiftToTargetExponent Format.binary64 m (e + j) .exact =
      (⟨m, false, false⟩, e + j) := by
    have hnone := shiftToTargetExponent_of_isNormal (e := e + j) (j := 0) hm (by simpa using h)
    simpa using hnone
  -- Nothing is rounded up, so the second shift has nothing to do.
  rw [roundWithAccuracy, shiftToTargetExponent_of_isNormal hm h]
  simp only [ExtendedMantissa.roundedMantissa, ExtendedMantissa.accuracy,
    Accuracy.roundToNearestEven, hsecond]
  rw [dif_neg hm.ne']

/-!
## The parts of an integer
-/

/-- The significand of an integer of at most 53 bits has them all. -/
def wholeParts (negative : Bool) (n : Nat) : Binary :=
  { negative, significand := n * 2 ^ (52 - n.log2), exponent := (n.log2 : Int) - 52 }

variable {n : Nat}

theorem isNormal_wholeParts (hpos : 0 < n) (hlt : n < 2 ^ 53) :
    IsNormal (n * 2 ^ (52 - n.log2)) ((n.log2 : Int) - 52) := by
  have hlog : n.log2 ≤ 52 := Nat.le_of_lt_succ ((Nat.log2_lt hpos.ne').mpr hlt)
  have hbounds := (Nat.log2_eq_iff hpos.ne').mp rfl
  refine ⟨⟨?_, ?_⟩, by omega, by omega⟩
  · calc leadingBit = 2 ^ n.log2 * 2 ^ (52 - n.log2) := by
          rw [← Nat.pow_add, Nat.add_sub_of_le hlog]; rfl
      _ ≤ n * 2 ^ (52 - n.log2) := Nat.mul_le_mul_right _ hbounds.1
  · calc n * 2 ^ (52 - n.log2) < 2 ^ (n.log2 + 1) * 2 ^ (52 - n.log2) :=
          Nat.mul_lt_mul_of_pos_right hbounds.2 (Nat.two_pow_pos _)
      _ = 2 * leadingBit := by
          rw [← Nat.pow_add, Nat.add_right_comm, Nat.add_sub_of_le hlog]; rfl

theorem wholeParts_pos (hpos : 0 < n) : 0 < n * 2 ^ (52 - n.log2) :=
  Nat.mul_pos hpos (Nat.two_pow_pos _)

theorem ofNat_eq_finite (hpos : 0 < n) (hlt : n < 2 ^ 53) :
    UnpackedFloat.ofNat Format.binary64 n =
      .finite .positive _ ((n.log2 : Int) - 52) (wholeParts_pos hpos) := by
  have hnormal := isNormal_wholeParts hpos hlt
  have hlog : n.log2 ≤ 52 := Nat.le_of_lt_succ ((Nat.log2_lt hpos.ne').mpr hlt)
  have hcompare : compare (n : Int) 0 = .gt := compare_gt_iff_gt.mpr (Int.natCast_pos.mpr hpos)
  have hshift : (0 - max ((n.log2 : Int) + 0 - 52) (-1074)).toNat = 52 - n.log2 := by
    omega
  have hexponent : (0 : Int) - (52 - n.log2 : Nat) = (n.log2 : Int) - 52 := by
    omega
  rw [UnpackedFloat.ofNat, UnpackedFloat.ofInt, UnpackedFloat.normalize, hcompare]
  simp only [Int.toNat_natCast, UnpackedFloat.round, targetExponent_eq, decreaseExponent, hshift,
    Nat.shiftLeft_eq, hexponent]
  have hround := roundWithAccuracy_of_isNormal (s := .positive) (e := (n.log2 : Int) - 52)
    (j := 0) (wholeParts_pos hpos) (by simpa using hnormal)
  simpa using hround

theorem kind_ofModel (u : UnpackedFloat) :
    kind (.ofModel (.pack u)) =
      kindOf (UnpackedFloat.unpack Format.binary64 (UnpackedFloat.pack Format.binary64 u)) :=
  kind_eq _

theorem kind_ofModel_finite {hm : 0 < m} (h : IsNormal m e) :
    kind (.ofModel (.pack (.finite s m e hm))) =
      .finite { negative := s == .negative, significand := m, exponent := e } := by
  rw [kind_ofModel, unpack_pack_of_isNormal hm h]
  rfl

theorem kind_ofNat (hpos : 0 < n) (hlt : n < 2 ^ 53) :
    kind (Float.ofNat n) = .finite (wholeParts false n) := by
  have hnormal := isNormal_wholeParts hpos hlt
  have hword : n.toUInt64.toNat = n := by
    show n % 2 ^ 64 = n
    omega
  have hfloat : Float.ofNat n = n.toUInt64.toFloat * Float.ofBits 0x3FF0000000000000 := by
    show Float.ofScientific n false 0 = _
    rw [Float.ofScientific, dif_pos ⟨hlt, by omega⟩]
    rfl
  have hfactor : n.toUInt64.toFloat.toModel.unpack =
      .finite .positive _ ((n.log2 : Int) - 52) (wholeParts_pos hpos) := by
    show UnpackedFloat.unpack Format.binary64 (UnpackedFloat.pack Format.binary64
      (UnpackedFloat.ofNat Format.binary64 n.toUInt64.toNat)) = _
    rw [hword, ofNat_eq_finite hpos hlt, unpack_pack_of_isNormal _ hnormal]
  have hone : (Float.ofBits 0x3FF0000000000000).toModel.unpack =
      .finite .positive (2 ^ 52) (-52) (Nat.two_pow_pos 52) := by
    apply kindOf_inj
    rw [← kind_eq]
    decide
  have hproduct : kind (n.toUInt64.toFloat * Float.ofBits 0x3FF0000000000000) =
      kind (.ofModel (.pack (UnpackedFloat.mul Format.binary64
        n.toUInt64.toFloat.toModel.unpack (Float.ofBits 0x3FF0000000000000).toModel.unpack))) :=
    rfl
  have hsum : (n.log2 : Int) - 52 + -52 + (52 : Nat) = (n.log2 : Int) - 52 := by
    omega
  rw [← hsum] at hnormal
  rw [hfloat, hproduct, hfactor, hone, UnpackedFloat.mul,
    roundWithAccuracy_of_isNormal (wholeParts_pos hpos) hnormal, kind_ofModel_finite hnormal,
    hsum]
  rfl

theorem kind_neg_of_isNormal {x : Float} {b : Binary} (h : kind x = .finite b)
    (hnormal : IsNormal b.significand b.exponent) :
    kind (-x) = .finite { b with negative := !b.negative } := by
  have hneg : kind (-x) = kind (.ofModel (.pack x.toModel.unpack.neg)) := rfl
  rcases unpack_of_kind h with ⟨s, _, rfl⟩ | ⟨s, m, e, hm, hparts, rfl⟩
  · exact absurd hnormal.1.1 (show ¬leadingBit ≤ 0 by decide)
  · rw [hneg, hparts, UnpackedFloat.neg, kind_ofModel_finite hnormal]
    cases s <;> rfl

/-!
## The number of an integer
-/

theorem kind_ofInt {k : Int} (hne : k ≠ 0) (hlt : k.natAbs < 2 ^ 53) :
    kind (Float.ofInt k) = .finite (wholeParts (k < 0) k.natAbs) := by
  cases k with
  | ofNat n =>
      have hpos : 0 < n := Nat.pos_of_ne_zero fun hzero => hne (congrArg Int.ofNat hzero)
      have hsign : decide (Int.ofNat n < 0) = false :=
        decide_eq_false (Int.not_lt.mpr (Int.natCast_nonneg n))
      rw [hsign]
      exact kind_ofNat hpos hlt
  | negSucc n =>
      have hsign : decide (Int.negSucc n < 0) = true :=
        decide_eq_true (Int.negSucc_lt_zero n)
      rw [hsign]
      exact kind_neg_of_isNormal (kind_ofNat n.succ_pos hlt)
        (isNormal_wholeParts n.succ_pos hlt)

theorem eq_of_natural? {b : Binary} (h : b.natural? = some n) :
    (0 ≤ b.exponent ∧ b.significand * 2 ^ b.exponent.toNat = n) ∨
      (b.exponent < 0 ∧ b.significand = n * 2 ^ b.exponent.natAbs) := by
  unfold Binary.natural? at h
  split at h
  · rename_i hexponent
    exact Or.inl ⟨hexponent, Option.some.inj h⟩
  · split at h
    · rename_i hexponent hmod
      have hdiv : b.significand / 2 ^ b.exponent.natAbs = n := Option.some.inj h
      refine Or.inr ⟨Int.not_le.mp hexponent, ?_⟩
      rw [← hdiv]
      exact (Nat.div_mul_cancel (Nat.dvd_of_mod_eq_zero hmod)).symm
    · cases h

theorem parts_of_natural? {x : Float} {b : Binary} (h : kind x = .finite b)
    (hnatural : b.natural? = some n) (hpos : 0 < n) (hlt : n < 2 ^ 53) :
    b = wholeParts b.negative n := by
  have hbounds := bounds_of_kind h
  have hlog : n.log2 ≤ 52 := Nat.le_of_lt_succ ((Nat.log2_lt hpos.ne').mpr hlt)
  have hbit : leadingBit = 2 ^ 52 := rfl
  rw [hbit] at hbounds
  have hparts : b.significand = n * 2 ^ (52 - n.log2) ∧ b.exponent = (n.log2 : Int) - 52 := by
    rcases eq_of_natural? hnatural with ⟨hexponent, hvalue⟩ | ⟨hexponent, hvalue⟩
    · -- All bits of the significand are bits of the integer, so there is no room for a power.
      have hlead : 2 ^ 52 ≤ b.significand := by
        rcases hbounds.2 with hlead | hleast
        · exact hlead
        · omega
      have hzero : b.exponent.toNat = 0 := by
        by_contra hne
        have hpow : 2 ^ 1 ≤ 2 ^ b.exponent.toNat :=
          Nat.pow_le_pow_right (by decide) (Nat.one_le_iff_ne_zero.mpr hne)
        have hlarge := Nat.mul_le_mul hlead hpow
        omega
      rw [hzero, Nat.pow_zero, Nat.mul_one] at hvalue
      have hfull : n.log2 = 52 := (Nat.log2_eq_iff hpos.ne').mpr ⟨hvalue ▸ hlead, hlt⟩
      rw [hvalue, hfull]
      constructor
      · simp
      · omega
    · -- The power only fills up the significand, and it is full: the least exponent would
      -- fill it up further than it reaches.
      have hne : b.significand ≠ 0 := by
        rw [hvalue]
        exact (Nat.mul_pos hpos (Nat.two_pow_pos _)).ne'
      have hsum : b.significand.log2 = n.log2 + b.exponent.natAbs := by
        rw [hvalue, log2_mul_two_pow hpos]
      have hless : b.significand.log2 < 53 := (Nat.log2_lt hne).mpr hbounds.1
      have hlead : 2 ^ 52 ≤ b.significand := by
        rcases hbounds.2 with hlead | hleast
        · exact hlead
        · omega
      have hfull : b.significand.log2 = 52 := (Nat.log2_eq_iff hne).mpr ⟨hlead, hbounds.1⟩
      have hshift : b.exponent.natAbs = 52 - n.log2 := by
        omega
      constructor
      · rw [hvalue, hshift]
      · omega
  rcases b with ⟨negative, significand, exponent⟩
  rcases hparts with ⟨rfl, rfl⟩
  rfl

theorem significand_of_natural?_zero {b : Binary} (h : b.natural? = some 0) :
    b.significand = 0 := by
  rcases eq_of_natural? h with ⟨_, hvalue⟩ | ⟨_, hvalue⟩
  · exact (Nat.mul_eq_zero.mp hvalue).resolve_right (Nat.two_pow_pos _).ne'
  · rw [hvalue, Nat.zero_mul]

/-!
## Zeros
-/

/-- The number, without the sign of a zero. -/
def unsignZero (x : Float) : Float :=
  if x == 0.0 then 0.0 else x

theorem unpack_zero : (0.0 : Float).toModel.unpack = .zero .positive := by
  apply kindOf_inj
  rw [← kind_eq]
  decide

theorem beq_zero_iff {x : Float} {b : Binary} (h : kind x = .finite b) :
    (x == 0.0) = true ↔ b.significand = 0 := by
  rw [Cell.beq_iff_compare, Float.Model.compare, unpack_zero]
  rcases unpack_of_kind h with ⟨s, hparts, rfl⟩ | ⟨s, m, e, hm, hparts, rfl⟩
  · rw [hparts]
    simp [UnpackedFloat.compare]
  · rw [hparts]
    cases s <;> simp [UnpackedFloat.compare, hm.ne']

theorem beq_self_of_kind {x : Float} {b : Binary} (h : kind x = .finite b) :
    (x == x) = true := by
  rw [Cell.beq_iff_compare, Float.Model.compare]
  rcases unpack_of_kind h with ⟨s, hparts, rfl⟩ | ⟨s, m, e, hm, hparts, rfl⟩
  · rw [hparts]
    rfl
  · rw [hparts]
    cases s <;> simp [UnpackedFloat.compare]

theorem beq_unsignZero {x : Float} {b : Binary} (h : kind x = .finite b) :
    (x == unsignZero x) = true := by
  unfold unsignZero
  split
  · rename_i hzero
    exact hzero
  · exact beq_self_of_kind h

/-!
## Numbers that are written as integers
-/

theorem Binary.natural?_of_integer? {b : Binary} {k : Int} (h : b.integer? = some k) :
    b.natural? = some k.natAbs ∧ (k ≠ 0 → b.negative = decide (k < 0)) := by
  rw [Binary.integer?, Option.map_eq_some_iff] at h
  rcases h with ⟨_, hcast, hsigned⟩
  cases hnatural : b.natural? with
  | none =>
      rw [hnatural] at hcast
      cases hcast
  | some n =>
      rw [hnatural] at hcast
      cases hcast
      cases hnegative : b.negative with
      | false =>
          rw [hnegative, if_neg Bool.false_ne_true] at hsigned
          subst hsigned
          simp
      | true =>
          rw [hnegative, if_pos rfl] at hsigned
          subst hsigned
          simp [Nat.pos_iff_ne_zero]

theorem exists_parts_of_writtenInteger? {x : Float} {k : Int}
    (h : Cell.writtenInteger? x = some k) :
    ∃ b, kind x = .finite b ∧ b.integer? = some k ∧ k.natAbs < Cell.integerBound := by
  unfold Cell.writtenInteger? at h
  split at h
  · rename_i b hkind
    rw [Option.filter_eq_some_iff] at h
    exact ⟨b, hkind, h.1, of_decide_eq_true h.2⟩
  · cases h

theorem integer?_of_significand_eq_zero {b : Binary} (h : b.significand = 0) :
    b.integer? = some 0 := by
  have hnatural : b.natural? = some 0 := by
    rw [Binary.natural?, h, Nat.zero_mul, Nat.zero_mod, Nat.zero_div, if_pos rfl, ite_self]
  rw [Binary.integer?, hnatural]
  cases b.negative <;> rfl

/-- Zeros are written as integers. -/
theorem writtenInteger?_of_beq_zero {x : Float} {b : Binary} (h : kind x = .finite b)
    (hzero : (x == 0.0) = true) : Cell.writtenInteger? x = some 0 := by
  have hinteger := integer?_of_significand_eq_zero ((beq_zero_iff h).mp hzero)
  simp [Cell.writtenInteger?, h, hinteger, Cell.integerBound]

theorem ofInt_of_writtenInteger? {x : Float} {k : Int} (h : Cell.writtenInteger? x = some k) :
    Float.ofInt k = unsignZero x := by
  rcases exists_parts_of_writtenInteger? h with ⟨b, hkind, hinteger, hbound⟩
  rcases Binary.natural?_of_integer? hinteger with ⟨hnatural, hsign⟩
  have hlt : k.natAbs < 2 ^ 53 := by
    simp only [Cell.integerBound] at hbound
    omega
  by_cases hzero : k = 0
  · subst hzero
    have hsignificand := significand_of_natural?_zero hnatural
    rw [unsignZero, if_pos ((beq_zero_iff hkind).mpr hsignificand)]
    apply kind_inj
    decide
  · have hpos : 0 < k.natAbs := Int.natAbs_pos.mpr hzero
    have hparts := parts_of_natural? hkind hnatural hpos hlt
    have hnonzero : ¬(x == 0.0) = true := by
      rw [beq_zero_iff hkind, hparts]
      exact (wholeParts_pos hpos).ne'
    rw [unsignZero, if_neg hnonzero]
    apply kind_inj
    rw [kind_ofInt hzero hlt, hkind, hparts, hsign hzero]

end Decimal
end TableQuery
