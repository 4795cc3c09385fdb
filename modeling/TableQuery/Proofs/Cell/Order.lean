import Mathlib
import TableQuery.Cell

/-!
# The order of cells read backwards

Exchanging the two sides of a comparison turns the order round and changes nothing
else: which pairs are ordered, and which are equal, does not depend on the side.  For
numbers this holds of every floating-point number, zeros and undefined ones included.
-/

namespace TableQuery
namespace Cell

/-!
## Numbers
-/

open Float.Model in
theorem unpacked_compare_swap (u v : UnpackedFloat) :
    v.compare u = (u.compare v).map Ordering.swap := by
  cases u with
  | infinity s =>
      cases v with
      | infinity t => cases s <;> cases t <;> rfl
      | notANumber => cases s <;> rfl
      | zero t => cases s <;> rfl
      | finite t n f hn => cases s <;> rfl
  | notANumber =>
      cases v with
      | infinity t => cases t <;> rfl
      | notANumber => rfl
      | zero t => rfl
      | finite t n f hn => cases t <;> rfl
  | zero s =>
      cases v with
      | infinity t => cases t <;> rfl
      | notANumber => rfl
      | zero t => rfl
      | finite t n f hn => cases t <;> rfl
  | finite s m e hm =>
      cases v with
      | infinity t => cases s <;> cases t <;> rfl
      | notANumber => cases s <;> rfl
      | zero t => cases s <;> rfl
      | finite t n f hn =>
          have hswap : (compare f e).then (compare n m) =
              ((compare e f).then (compare m n)).swap := by
            rw [Ordering.swap_then, Int.compare_swap, Nat.compare_swap]
          cases s <;> cases t <;> simp [UnpackedFloat.compare, hswap]

theorem lt_iff_compare (x y : Float) :
    x < y ↔ x.toModel.compare y.toModel = some .lt := by
  show decide (x.toModel < y.toModel) = true ↔ _
  rw [decide_eq_true_iff]
  show x.toModel.unpack.lt y.toModel.unpack = true ↔ _
  simp [Float.Model.UnpackedFloat.lt, Float.Model.compare]

theorem beq_iff_compare (x y : Float) :
    (x == y) = true ↔ x.toModel.compare y.toModel = some .eq := by
  show x.toModel.unpack.beq y.toModel.unpack = true ↔ _
  simp [Float.Model.UnpackedFloat.beq, Float.Model.compare]

theorem model_compare_swap (x y : Float.Model) : y.compare x = (x.compare y).map Ordering.swap :=
  unpacked_compare_swap x.unpack y.unpack

theorem compareNumbers?_eq_compare (x y : Float) :
    compareNumbers? x y = x.toModel.compare y.toModel := by
  simp only [compareNumbers?, lt_iff_compare, beq_iff_compare,
    model_compare_swap x.toModel y.toModel]
  cases x.toModel.compare y.toModel with
  | none => rfl
  | some order => cases order <;> rfl

theorem compareNumbers?_swap (x y : Float) :
    compareNumbers? y x = (compareNumbers? x y).map Ordering.swap := by
  rw [compareNumbers?_eq_compare, compareNumbers?_eq_compare, model_compare_swap]

/-!
## Cells
-/

theorem compareTexts_swap (s t : String) :
    compareOfLessAndEq t s = (compareOfLessAndEq s t).swap :=
  compareOfLessAndEq_eq_swap String.le_antisymm String.le_total String.not_le

theorem compare?_swap (c d : Cell) : d.compare? c = (c.compare? d).map Ordering.swap := by
  cases c with
  | null => cases d <;> rfl
  | number x =>
      cases d with
      | null => rfl
      | number y => exact compareNumbers?_swap x y
      | text t => rfl
  | text s =>
      cases d with
      | null => rfl
      | number y => rfl
      | text t => simp [compare?, compareTexts_swap s t]

theorem compare?_eq_some_eq_comm {c d : Cell} :
    c.compare? d = some .eq ↔ d.compare? c = some .eq := by
  rw [compare?_swap c d]
  cases c.compare? d with
  | none => simp
  | some order => cases order <;> simp

theorem isNull_eq_of_compare? {c d : Cell} (h : c.compare? d = some .eq) :
    c.isNull = d.isNull := by
  cases c <;> cases d <;> simp_all [compare?, isNull]

end Cell
end TableQuery
