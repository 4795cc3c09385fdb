import Mathlib.Algebra.Order.BigOperators.Group.List
import Mathlib.Tactic.Linarith
import TableQuery.Proofs.Decimal.Values

/-!
# Exact sums

A sum whose value is that of a number is this number: nothing is rounded.  Integers are
therefore summed up exactly, in whatever order and in whatever groups, as long as their
magnitudes do not sum up to more than `2 ^ 53`.
-/

namespace TableQuery
namespace Decimal

open Float.Model UnpackedFloat

/-!
## Rounding of what is a number
-/

theorem magnitude_mul_two_pow (m j : Nat) (e : Int) :
    magnitude (m * 2 ^ j) e = magnitude m (e + j) := by
  rw [magnitude, magnitude, zpow_add₀ (by norm_num), zpow_natCast]
  push_cast
  ring

theorem magnitude_left_inj {m n : Nat} {e : Int} (h : magnitude m e = magnitude n e) : m = n := by
  have hpow : (2 : ℚ) ^ e ≠ 0 := by positivity
  exact_mod_cast mul_right_cancel₀ hpow h

theorem round_of_isNormal {s : Sign} {m n : Nat} {e f : Int} (hm : 0 < m) (h : IsNormal m e)
    (hvalue : magnitude n f = magnitude m e) :
    UnpackedFloat.round Format.binary64 s n f = .finite s m e hm := by
  have hbounds := h.2
  rcases le_total e f with hle | hle
  · -- The significand is too short: its bits move up, and there are as many as needed.
    rcases Int.le.dest hle with ⟨j, rfl⟩
    have hshort : n * 2 ^ j = m := by
      rw [← magnitude_mul_two_pow] at hvalue
      exact magnitude_left_inj hvalue
    have hn : 0 < n := Nat.pos_of_ne_zero fun hzero => by simp [hzero] at hshort; omega
    have hlog : n.log2 + j = 52 := by
      rw [← log2_mul_two_pow hn, hshort, h.log2_eq]
    have htarget : max ((n.log2 : Int) + (e + j) - 52) (-1074) = e := by omega
    have hshift : (e + (j : Int) - e).toNat = j := by omega
    have hexponent : e + (j : Int) - j = e := by omega
    have hround := roundWithAccuracy_of_isNormal (s := s) (e := e) (j := 0) hm (by simpa using h)
    rw [UnpackedFloat.round]
    simp only [targetExponent_eq, htarget, decreaseExponent, hshift, Nat.shiftLeft_eq, hshort,
      hexponent]
    simpa using hround
  · -- The significand is too long by zeros.
    rcases Int.le.dest hle with ⟨j, rfl⟩
    have hlong : n = m * 2 ^ j := by
      rw [← magnitude_mul_two_pow] at hvalue
      exact magnitude_left_inj hvalue
    have htarget : max ((n.log2 : Int) + f - 52) (-1074) = f + j := by
      rw [hlong, log2_mul_two_pow hm, h.log2_eq]
      push_cast
      omega
    have hshift : (f - (f + (j : Int))).toNat = 0 := by omega
    have hround := roundWithAccuracy_of_isNormal (s := s) hm h
    rw [← hlong] at hround
    rw [UnpackedFloat.round]
    simp only [targetExponent_eq, htarget, decreaseExponent, hshift, Nat.shiftLeft_zero]
    simpa using hround

theorem normalize_of_isNormal {s t : Sign} {m : Nat} {e f k : Int} (hm : 0 < m)
    (h : IsNormal m e) (hvalue : (k : ℚ) * 2 ^ f = signed s (magnitude m e)) :
    UnpackedFloat.normalize Format.binary64 k f t = .finite s m e hm := by
  have hpos := magnitude_pos hm e
  have hpow : (0 : ℚ) < 2 ^ f := by positivity
  cases s with
  | positive =>
      rw [signed] at hvalue
      have hk : 0 < k := by
        exact_mod_cast (mul_pos_iff_of_pos_right hpow).mp (hvalue ▸ hpos)
      rw [UnpackedFloat.normalize, compare_gt_iff_gt.mpr hk]
      apply round_of_isNormal hm h
      rw [magnitude, ← Int.cast_natCast, Int.toNat_of_nonneg hk.le, hvalue]
  | negative =>
      rw [signed, ← neg_eq_iff_eq_neg, ← neg_mul] at hvalue
      have hk : 0 < -k := by
        exact_mod_cast (mul_pos_iff_of_pos_right hpow).mp (hvalue ▸ hpos)
      rw [UnpackedFloat.normalize, compare_lt_iff_lt.mpr (by omega)]
      apply round_of_isNormal hm h
      rw [magnitude, ← Int.cast_natCast, Int.toNat_of_nonneg hk.le, Int.cast_neg, hvalue]

theorem apply_shiftLeft (s : Sign) (m : Nat) {e f : Int} (h : f ≤ e) :
    (s.apply ((m <<< (e - f).toNat : Nat) : Int) : ℚ) * 2 ^ f = signed s (magnitude m e) := by
  rcases Int.le.dest h with ⟨j, rfl⟩
  have hj : (f + (j : Int) - f).toNat = j := by omega
  rw [hj, ← magnitude_mul_two_pow, Nat.shiftLeft_eq, magnitude]
  cases s with
  | positive =>
      rfl
  | negative =>
      rw [signed, Sign.apply, Int.cast_neg, Int.cast_natCast, neg_mul]

/-- Two numbers are added as integers, at the smaller one of their exponents. -/
theorem exists_add_eq_normalize {s t : Sign} {m n : Nat} {e f : Int} (hm : 0 < m) (hn : 0 < n) :
    ∃ k : Int, UnpackedFloat.add Format.binary64 (.finite s m e hm) (.finite t n f hn) =
        UnpackedFloat.normalize Format.binary64 k (min e f) .positive ∧
      (k : ℚ) * 2 ^ (min e f) = signed s (magnitude m e) + signed t (magnitude n f) := by
  refine ⟨_, rfl, ?_⟩
  rw [Int.cast_add, add_mul]
  exact congrArg₂ (· + ·) (apply_shiftLeft s m (min_le_left e f))
    (apply_shiftLeft t n (min_le_right e f))

theorem kind_add (x y : Float) :
    kind (x + y) = kind (.ofModel (.pack (UnpackedFloat.add Format.binary64
      x.toModel.unpack y.toModel.unpack))) :=
  rfl

theorem value_of_unpack {x : Float} {s : Sign} {m : Nat} {e : Int} {hm : 0 < m}
    (h : x.toModel.unpack = .finite s m e hm) :
    isFinite x = true ∧ value x = signed s (magnitude m e) := by
  have hkind : kind x =
      .finite { negative := s == .negative, significand := m, exponent := e } := by
    rw [kind_eq, h]
    rfl
  refine ⟨isFinite_iff_exists.mpr ⟨_, hkind⟩, ?_⟩
  rw [value_of_kind hkind]
  cases s <;> rfl

theorem signed_magnitude_ne_zero {m : Nat} (hm : 0 < m) (s : Sign) (e : Int) :
    signed s (magnitude m e) ≠ 0 := by
  have hpos := magnitude_pos hm e
  cases s with
  | positive =>
      exact hpos.ne'
  | negative =>
      exact neg_ne_zero.mpr hpos.ne'

/-- A sum is exact where its value is that of a number with a full significand. -/
theorem add_eq_of_value_eq {x y z : Float} {s : Sign} {m : Nat} {e : Int} {hm : 0 < m}
    (hx : isFinite x = true) (hy : isFinite y = true) (hz : z.toModel.unpack = .finite s m e hm)
    (hnormal : IsNormal m e) (h : value x + value y = value z) : x + y = z := by
  rcases value_of_unpack hz with ⟨hfinite, hvz⟩
  have hne : value z ≠ 0 := hvz ▸ signed_magnitude_ne_zero hm s e
  have hkind : kind (.ofModel (.pack (.finite s m e hm))) = kind z := by
    rw [kind_ofModel_finite hnormal, kind_eq z, hz]
    rfl
  apply kind_inj
  rw [← hkind, kind_add]
  rcases unpack_of_isFinite hx with ⟨t, ht, hvx⟩ | ⟨t, n, f, hn, ht, hvx, _⟩
  · -- Zero and another number: that number is the sum.
    rw [hvx, zero_add] at h
    rw [eq_of_value_eq hy hfinite h (h ▸ hne), ht, hz]
    rfl
  · rcases unpack_of_isFinite hy with ⟨u, hu, hvy⟩ | ⟨u, k, g, hk, hu, hvy, _⟩
    · rw [hvy, add_zero] at h
      rw [eq_of_value_eq hx hfinite h (h ▸ hne), hu, hz]
      rfl
    · rcases exists_add_eq_normalize (s := t) (e := f) (t := u) (f := g) hn hk with
        ⟨sum, hsum, hvalue⟩
      rw [← hvx, ← hvy, h, hvz] at hvalue
      rw [ht, hu, hsum, normalize_of_isNormal hm hnormal hvalue]

/-- A number and its negative sum up to the positive zero, and so does that zero with any. -/
theorem add_eq_zero {x y : Float} (hx : isFinite x = true) (hy : isFinite y = true)
    (hsign : x.toModel.unpack ≠ .zero .negative) (h : value x + value y = 0) : x + y = 0.0 := by
  have hzero : kind (.ofModel (.pack (.zero .positive))) = kind 0.0 := by decide
  apply kind_inj
  rw [← hzero, kind_add]
  rcases unpack_of_isFinite hx with ⟨t, ht, hvx⟩ | ⟨t, n, f, hn, ht, hvx, _⟩
  · have ht' : t = .positive := by
      cases t with
      | positive =>
          rfl
      | negative =>
          exact absurd ht hsign
    rcases unpack_of_isFinite hy with ⟨u, hu, _⟩ | ⟨u, k, g, hk, hu, hvy, _⟩
    · rw [ht, hu, ht']
      cases u <;> rfl
    · rw [hvx, zero_add, hvy] at h
      exact absurd h (signed_magnitude_ne_zero hk u g)
  · rcases unpack_of_isFinite hy with ⟨u, hu, hvy⟩ | ⟨u, k, g, hk, hu, hvy, _⟩
    · rw [hvy, add_zero, hvx] at h
      exact absurd h (signed_magnitude_ne_zero hn t f)
    · rcases exists_add_eq_normalize (s := t) (e := f) (t := u) (f := g) hn hk with
        ⟨sum, hsum, hvalue⟩
      rw [← hvx, ← hvy, h] at hvalue
      have hcancel : sum = 0 := by
        have hpow : (2 : ℚ) ^ (min f g) ≠ 0 := by positivity
        exact_mod_cast (mul_eq_zero.mp hvalue).resolve_right hpow
      rw [ht, hu, hsum, hcancel]
      rfl

/-!
## Integers
-/

theorem magnitude_wholeParts {n : Nat} (hpos : 0 < n) (hlt : n < 2 ^ 53) :
    magnitude (n * 2 ^ (52 - n.log2)) ((n.log2 : Int) - 52) = n := by
  have hlog : n.log2 ≤ 52 := Nat.le_of_lt_succ ((Nat.log2_lt hpos.ne').mpr hlt)
  have hexponent : (n.log2 : Int) - 52 + (52 - n.log2 : Nat) = 0 := by omega
  rw [magnitude_mul_two_pow, hexponent, magnitude, zpow_zero, mul_one]

theorem kind_ofInt_of_le {k : Int} (hne : k ≠ 0) (hbound : k.natAbs ≤ 2 ^ 53) :
    ∃ m e, kind (Float.ofInt k) =
        .finite { negative := k < 0, significand := m, exponent := e } ∧
      IsNormal m e ∧ magnitude m e = k.natAbs := by
  rcases Nat.lt_or_eq_of_le hbound with hlt | heq
  · have hpos : 0 < k.natAbs := Int.natAbs_pos.mpr hne
    exact ⟨_, _, kind_ofInt hne hlt, isNormal_wholeParts hpos hlt, magnitude_wholeParts hpos hlt⟩
  · -- The largest of these integers has one bit more than the significand, and it is zero.
    refine ⟨2 ^ 52, 1, ?_, ⟨by decide, by decide⟩, ?_⟩
    · rcases Int.natAbs_eq k with hk | hk
      · rw [hk, heq]
        decide +kernel
      · rw [hk, heq]
        decide +kernel
    · rw [heq, magnitude]
      norm_num

theorem value_zero : value 0.0 = 0 := by
  have hkind : kind 0.0 =
      .finite { negative := false, significand := 0, exponent := -1074 } := by decide
  rw [value_of_kind hkind]
  simp [Binary.value, magnitude]

theorem unpack_ofInt {k : Int} (hne : k ≠ 0) (hbound : k.natAbs ≤ 2 ^ 53) :
    ∃ s m e, ∃ hm : 0 < m, (Float.ofInt k).toModel.unpack = .finite s m e hm ∧
      IsNormal m e ∧ value (Float.ofInt k) = k := by
  rcases kind_ofInt_of_le hne hbound with ⟨m, e, hkind, hnormal, hmagnitude⟩
  have hvalue : value (Float.ofInt k) = k := by
    rw [value_of_kind hkind, Binary.value, hmagnitude]
    by_cases hsign : k < 0
    · rw [if_pos (decide_eq_true hsign), Nat.cast_natAbs, abs_of_neg hsign, Int.cast_neg, neg_neg]
    · rw [if_neg (by simpa using hsign), Nat.cast_natAbs, abs_of_nonneg (Int.not_lt.mp hsign)]
  rcases unpack_of_kind hkind with ⟨s, _, hparts⟩ | ⟨s, m', e', hm, hs, hparts⟩
  · rw [Binary.mk.injEq] at hparts
    rw [hparts.2.1] at hnormal
    exact absurd hnormal.1.1 (by decide)
  · rw [Binary.mk.injEq] at hparts
    rw [hparts.2.1, hparts.2.2] at hnormal
    exact ⟨s, m', e', hm, hs, hnormal, hvalue⟩

/-- An integer of up to 53 bits, or the next one, is a number. -/
theorem value_ofInt {k : Int} (hbound : k.natAbs ≤ 2 ^ 53) :
    isFinite (Float.ofInt k) = true ∧ value (Float.ofInt k) = k := by
  by_cases hne : k = 0
  · subst hne
    exact ⟨by decide, value_zero⟩
  · rcases unpack_ofInt hne hbound with ⟨s, m, e, hm, hunpack, _, hvalue⟩
    exact ⟨(value_of_unpack hunpack).1, hvalue⟩

theorem value_ofNat {n : Nat} (hbound : n ≤ 2 ^ 53) :
    isFinite (Float.ofNat n) = true ∧ value (Float.ofNat n) = n :=
  value_ofInt (k := n) hbound

theorem unpack_ofInt_ne (k : Int) (hbound : k.natAbs ≤ 2 ^ 53) :
    (Float.ofInt k).toModel.unpack ≠ .zero .negative := by
  by_cases hne : k = 0
  · subst hne
    intro h
    have hzero : (Float.ofInt 0).toModel.unpack = .zero .positive := unpack_zero
    rw [hzero] at h
    cases h
  · rcases unpack_ofInt hne hbound with ⟨s, m, e, hm, hunpack, _⟩
    rw [hunpack]
    intro h
    cases h

/-- Integers are added exactly, and no sum is the negative zero. -/
theorem ofInt_add {j k : Int} {x : Float} (hx : isFinite x = true) (hk : value x = k)
    (hj : j.natAbs ≤ 2 ^ 53) (hsum : (j + k).natAbs ≤ 2 ^ 53) :
    Float.ofInt j + x = Float.ofInt (j + k) := by
  have hleft := value_ofInt hj
  have hvalue : value (Float.ofInt j) + value x = value (Float.ofInt (j + k)) := by
    rw [hleft.2, hk, (value_ofInt hsum).2, Int.cast_add]
  by_cases hne : j + k = 0
  · rw [hne] at hvalue ⊢
    exact add_eq_zero hleft.1 hx (unpack_ofInt_ne j hj) (hvalue.trans value_zero)
  · rcases unpack_ofInt hne hsum with ⟨s, m, e, hm, hunpack, hnormal, _⟩
    exact add_eq_of_value_eq hleft.1 hx hunpack hnormal hvalue

/-!
## Sums of many numbers
-/

/-- The sum from left to right. -/
def total (xs : List Float) : Float :=
  xs.foldl (· + ·) 0.0

theorem total_concat (xs : List Float) (x : Float) : total (xs ++ [x]) = total xs + x := by
  rw [total, List.foldl_append]
  rfl

/-- Integers whose magnitudes sum up to at most `2 ^ 53`. -/
structure AddsExactly (xs : List Float) : Prop where
  finite : ∀ x ∈ xs, isFinite x = true
  integer : ∀ x ∈ xs, ∃ k : Int, value x = k
  bounded : (xs.map fun x => |value x|).sum ≤ 2 ^ 53

theorem natAbs_le_of_abs_le {k : Int} (h : |(k : ℚ)| ≤ 2 ^ 53) : k.natAbs ≤ 2 ^ 53 := by
  have hcast : ((k.natAbs : Nat) : ℚ) ≤ (2 ^ 53 : Nat) := by
    rw [Nat.cast_natAbs, Int.cast_abs]
    exact_mod_cast h
  exact_mod_cast hcast

/-- No partial sum is rounded: each is an integer, with a magnitude of at most `2 ^ 53`. -/
theorem AddsExactly.exists_total_eq {xs : List Float} (h : AddsExactly xs) :
    ∃ k : Int, total xs = Float.ofInt k ∧ (k : ℚ) = (xs.map value).sum ∧
      |(k : ℚ)| ≤ (xs.map fun x => |value x|).sum := by
  rcases h with ⟨hfinite, hint, hbound⟩
  induction xs using List.reverseRecOn with
  | nil =>
      exact ⟨0, rfl, by simp, by simp⟩
  | append_singleton xs x ih =>
      rw [List.forall_mem_append, List.forall_mem_singleton] at hfinite hint
      rw [List.map_append, List.map_singleton, List.sum_append, List.sum_singleton] at hbound
      have hnonneg : 0 ≤ |value x| := abs_nonneg _
      rcases ih hfinite.1 hint.1 (by linarith) with ⟨j, htotal, hsum, habs⟩
      rcases hint.2 with ⟨k, hk⟩
      have hle : |((j + k : Int) : ℚ)| ≤ (xs.map fun x => |value x|).sum + |value x| := by
        rw [Int.cast_add, ← hk]
        exact (abs_add_le _ _).trans (by linarith)
      refine ⟨j + k, ?_, ?_, ?_⟩
      · rw [total_concat, htotal, ofInt_add hfinite.2 hk (natAbs_le_of_abs_le (by linarith))
          (natAbs_le_of_abs_le (by linarith))]
      · simp [hsum, hk]
      · simpa using hle

/-- The sum is determined by the values, in whatever order they come. -/
theorem AddsExactly.total_eq {xs ys : List Float} (hxs : AddsExactly xs) (hys : AddsExactly ys)
    (h : (xs.map value).sum = (ys.map value).sum) : total xs = total ys := by
  rcases hxs.exists_total_eq with ⟨j, hj, hjsum, _⟩
  rcases hys.exists_total_eq with ⟨k, hk, hksum, _⟩
  have hjk : j = k := Int.cast_injective (α := ℚ) (by rw [hjsum, hksum, h])
  rw [hj, hk, hjk]

theorem AddsExactly.perm {xs ys : List Float} (h : AddsExactly xs) (hperm : ys.Perm xs) :
    AddsExactly ys where
  finite x hx := h.finite x (hperm.subset hx)
  integer x hx := h.integer x (hperm.subset hx)
  bounded := (hperm.map fun x => |value x|).sum_eq.trans_le h.bounded

/-- The sum is an integer, not greater than the magnitudes of the numbers. -/
theorem AddsExactly.value_total {xs : List Float} (h : AddsExactly xs) :
    isFinite (total xs) = true ∧ (∃ k : Int, value (total xs) = k) ∧
      value (total xs) = (xs.map value).sum ∧
      |value (total xs)| ≤ (xs.map fun x => |value x|).sum := by
  rcases h.exists_total_eq with ⟨k, htotal, hsum, habs⟩
  have hk := value_ofInt (natAbs_le_of_abs_le (habs.trans h.bounded))
  rw [htotal, hk.2]
  exact ⟨hk.1, ⟨k, rfl⟩, hsum, habs⟩

/-- The numbers sum up to this one in whatever order they come, and nothing is rounded. -/
structure SumsTo (xs : List Float) (x : Float) : Prop where
  finite : isFinite x = true
  total_eq : ∀ ys : List Float, ys.Perm xs → total ys = x
  value_eq : value x = (xs.map value).sum

theorem AddsExactly.sumsTo {xs : List Float} (h : AddsExactly xs) : SumsTo xs (total xs) where
  finite := h.value_total.1
  total_eq _ hperm := (h.perm hperm).total_eq h (hperm.map value).sum_eq
  value_eq := h.value_total.2.2.1

/-!
## Sums of groups
-/

theorem sum_map_flatten {xss : List (List Float)} {ys : List Float}
    (hperm : xss.flatten.Perm ys) (f : Float → ℚ) :
    (xss.map fun xs => (xs.map f).sum).sum = (ys.map f).sum := by
  rw [← (hperm.map f).sum_eq, List.map_flatten, List.sum_flatten, List.map_map]
  rfl

theorem AddsExactly.of_mem {xss : List (List Float)} {ys : List Float} (h : AddsExactly ys)
    (hperm : xss.flatten.Perm ys) {xs : List Float} (hxs : xs ∈ xss) : AddsExactly xs := by
  have hmem : ∀ x ∈ xs, x ∈ ys := by
    intro x hx
    exact hperm.subset (List.mem_flatten.mpr ⟨xs, hxs, hx⟩)
  refine ⟨fun x hx => h.finite x (hmem x hx), fun x hx => h.integer x (hmem x hx), ?_⟩
  refine le_trans ?_ ((sum_map_flatten hperm fun x => |value x|).trans_le h.bounded)
  refine List.single_le_sum ?_ _ (List.mem_map_of_mem hxs)
  intro q hq
  rcases List.mem_map.mp hq with ⟨zs, _, rfl⟩
  exact List.sum_nonneg (by simp)

theorem AddsExactly.map_total {xss : List (List Float)} {ys : List Float} (h : AddsExactly ys)
    (hperm : xss.flatten.Perm ys) : AddsExactly (xss.map total) := by
  have hgroup := fun xs (hxs : xs ∈ xss) => (h.of_mem hperm hxs).value_total
  refine ⟨?_, ?_, ?_⟩
  · intro x hx
    rcases List.mem_map.mp hx with ⟨xs, hxs, rfl⟩
    exact (hgroup xs hxs).1
  · intro x hx
    rcases List.mem_map.mp hx with ⟨xs, hxs, rfl⟩
    exact (hgroup xs hxs).2.1
  · rw [List.map_map]
    refine (List.sum_le_sum ?_).trans
      ((sum_map_flatten hperm fun x => |value x|).trans_le h.bounded)
    intro xs hxs
    exact (hgroup xs hxs).2.2.2

/-- The sums of groups of the numbers sum up to the sum of all. -/
theorem AddsExactly.sumsTo_map_total {xss : List (List Float)} {ys : List Float}
    (h : AddsExactly ys) (hperm : xss.flatten.Perm ys) : SumsTo (xss.map total) (total ys) := by
  have htotals := h.map_total hperm
  have hvalues : ((xss.map total).map value).sum = (ys.map value).sum := by
    rw [← sum_map_flatten hperm value, List.map_map]
    apply congrArg List.sum
    apply List.map_congr_left
    intro xs hxs
    exact (h.of_mem hperm hxs).value_total.2.2.1
  rw [← htotals.total_eq h hvalues]
  exact htotals.sumsTo

/-- Counts are summed up exactly. -/
theorem sumsTo_ofNat {counts : List Nat} {n : Nat} (hsum : counts.sum = n) (hbound : n ≤ 2 ^ 53) :
    SumsTo (counts.map Float.ofNat) (Float.ofNat n) := by
  have hvalue : ∀ m ∈ counts, isFinite (Float.ofNat m) = true ∧ value (Float.ofNat m) = m := by
    intro m hm
    exact value_ofNat ((List.single_le_sum (by simp) m hm).trans (hsum.trans_le hbound))
  have hmap : ∀ f : Float → ℚ, (∀ m ∈ counts, f (Float.ofNat m) = m) →
      ((counts.map Float.ofNat).map f).sum = n := by
    intro f hf
    rw [List.map_map, ← hsum, Nat.cast_list_sum]
    exact congrArg List.sum (List.map_congr_left hf)
  have hcounts : AddsExactly (counts.map Float.ofNat) := by
    refine ⟨?_, ?_, ?_⟩
    · intro x hx
      rcases List.mem_map.mp hx with ⟨m, hm, rfl⟩
      exact (hvalue m hm).1
    · intro x hx
      rcases List.mem_map.mp hx with ⟨m, hm, rfl⟩
      exact ⟨m, by rw [(hvalue m hm).2, Int.cast_natCast]⟩
    · rw [hmap fun x => |value x|]
      · exact_mod_cast hbound
      · intro m hm
        rw [(hvalue m hm).2, Nat.abs_cast]
  have htotal : total (counts.map Float.ofNat) = Float.ofNat n := by
    rcases hcounts.exists_total_eq with ⟨k, htotal, hk, _⟩
    rw [hmap value fun m hm => (hvalue m hm).2] at hk
    have hcast : k = n := Int.cast_injective (α := ℚ) (by rw [hk, Int.cast_natCast])
    rw [htotal, hcast]
    rfl
  rw [← htotal]
  exact hcounts.sumsTo

end Decimal
end TableQuery
