import FixturePlan.Database.Basic
import Mathlib.Algebra.Order.Field.Rat
import Mathlib.Order.Std
import Mathlib.Order.Compare
import Mathlib.Algebra.Order.Field.Power
import Mathlib.Tactic.Ring

/-!
# Storage order is an order

Storage order compares one part of the values after the other (`Cell.storageOrder_eq`): their classes,
then where a number lies among the finite ones, its exact value, and the codes of a text or a blob. Each
part is in an order of its own, so any two values can be compared and comparisons can be chained. The
same holds for lists of values, and so for the rows of a table by some of its columns.
-/

namespace FixturePlan

namespace Number.Binary64

/-- The value of a finite number. -/
def value : Binary64 → ℚ
  | .finite negative significand exponent =>
    (if negative then -1 else 1) * significand * 2 ^ exponent
  | _ => 0

/-- To scale both sides by a power of two changes no comparison. -/
theorem compare_mul_zpow (a b : ℤ) (unit : ℤ) :
    compare ((a : ℚ) * 2 ^ unit) (b * 2 ^ unit) = compare a b := by
  have hmono : StrictMono fun n : ℤ => (n : ℚ) * 2 ^ unit := by
    intro m n hlt
    exact mul_lt_mul_of_pos_right (Int.cast_lt.2 hlt) (by positivity)
  rw [← cmp_eq_compare, ← cmp_eq_compare]
  exact hmono.cmp_map_eq a b

theorem value_finite (negative : Bool) (significand : Nat) {exponent unit : ℤ} (h : unit ≤ exponent) :
    (finite negative significand exponent).value =
      ((if negative then -((significand * Nat.pow 2 (exponent - unit).toNat : Nat) : ℤ)
        else ((significand * Nat.pow 2 (exponent - unit).toNat : Nat) : ℤ) : ℤ) : ℚ) * 2 ^ unit := by
  have hpow : (2 : ℚ) ^ exponent = 2 ^ (exponent - unit).toNat * 2 ^ unit := by
    rw [← zpow_natCast, Int.toNat_of_nonneg (by omega), ← zpow_add₀ (by norm_num)]
    congr 1
    omega
  rw [value, hpow]
  cases negative <;> push_cast <;> simp [mul_assoc]

theorem value_ofInt (n : ℤ) : (ofInt n).value = n := by
  rw [ofInt, value, zpow_zero, mul_one]
  rcases lt_or_ge n 0 with hneg | hpos
  · simp [hneg, abs_of_neg hneg]
  · simp [hpos.not_gt, abs_of_nonneg hpos]

theorem compareFinite_eq (n : Bool) (s : Nat) (e : ℤ) (n' : Bool) (s' : Nat) (e' : ℤ) :
    compareFinite n s e n' s' e' = compare (finite n s e).value (finite n' s' e').value := by
  rw [value_finite n s (min_le_left e e'), value_finite n' s' (min_le_right e e'), compare_mul_zpow]
  rfl

theorem order_eq (x y : Binary64) :
    x.order y = (compare x.side y.side).then (compare x.value y.value) := by
  cases x with
  | finite n s e =>
    cases y with
    | finite n' s' e' => exact compareFinite_eq n s e n' s' e'
    | nan => rfl
    | infinite negative => cases negative <;> rfl
  | nan =>
    cases y with
    | finite n' s' e' => rfl
    | nan => simp [order, value]
    | infinite negative => cases negative <;> rfl
  | infinite negative =>
    cases y with
    | finite n' s' e' => cases negative <;> rfl
    | nan => cases negative <;> rfl
    | infinite negative' => simp [order, value]

end Number.Binary64

namespace Cell

theorem compareLists_eq {α : Type} (cmp : α → α → Ordering) (as bs : List α) :
    compareLists cmp as bs = List.compareLex cmp as bs := by
  induction as generalizing bs with
  | nil => cases bs <;> rfl
  | cons a as ih =>
    cases bs with
    | nil => rfl
    | cons b bs =>
      rw [compareLists, ih, List.compareLex]
      cases cmp a b <;> rfl

/-- Where a number lies among the finite ones. -/
def side (cell : Cell) : ℤ := (cell.number?.map (·.side)).getD 0

/-- The value of a finite number. -/
def value (cell : Cell) : ℚ := (cell.number?.map (·.value)).getD 0

/-- The codes that a text or a blob is made of. -/
def codes : Cell → List Nat
  | .text s => s.toList.map (·.toNat)
  | .blob bytes => bytes.map (·.toNat)
  | _ => []

theorem compareLists_map {α : Type} (f : α → Nat) (as bs : List α) :
    compareLists (fun a b => compare (f a) (f b)) as bs = compare (as.map f) (bs.map f) := by
  rw [compareLists_eq]
  induction as generalizing bs with
  | nil => cases bs <;> rfl
  | cons a as ih =>
    cases bs with
    | nil => rfl
    | cons b bs =>
      rw [List.compareLex, ih, List.map_cons, List.map_cons, List.compare_cons_cons]
      cases compare (f a) (f b) <;> rfl

theorem storageOrder_of_number {a b : Cell} {x y : Number.Binary64} (ha : a.number? = some x)
    (hb : b.number? = some y) : a.storageOrder b =
      (compare a.storageClass b.storageClass).then ((compare a.side b.side).then
        ((compare a.value b.value).then (compare a.codes b.codes))) := by
  have horder : a.storageOrder b = x.order y := by
    cases a <;> cases b <;> simp_all [storageOrder, number?]
  have hparts : ∀ c : Cell, c.number?.isSome → c.storageClass = 1 ∧ c.codes = [] := by
    intro c hc
    cases c <;> simp_all [number?, storageClass, codes]
  obtain ⟨hclass, hcodes⟩ := hparts a (by rw [ha]; rfl)
  obtain ⟨hclass', hcodes'⟩ := hparts b (by rw [hb]; rfl)
  rw [horder, Number.Binary64.order_eq, hclass, hclass', hcodes, hcodes']
  simp [side, value, ha, hb]

/-- Values are compared part by part. -/
theorem storageOrder_eq (a b : Cell) :
    a.storageOrder b = (compare a.storageClass b.storageClass).then ((compare a.side b.side).then
      ((compare a.value b.value).then (compare a.codes b.codes))) := by
  cases a <;> cases b <;> first
    | rfl
    | exact storageOrder_of_number rfl rfl
    | simpa [storageOrder, storageClass, side, value, number?, codes] using compareLists_map _ _ _

instance : Std.TransCmp storageOrder := by
  have heq : storageOrder = compareLex (compareOn storageClass) (compareLex (compareOn side)
      (compareLex (compareOn value) (compareOn codes))) := by
    funext a b
    exact storageOrder_eq a b
  rw [heq]
  infer_instance

instance {α : Type} (cmp : α → α → Ordering) [Std.TransCmp cmp] : Std.TransCmp (compareLists cmp) := by
  have heq : compareLists cmp = List.compareLex cmp := by
    funext as bs
    exact compareLists_eq cmp as bs
  rw [heq]
  infer_instance

/-- Whole numbers are in order of their values. -/
theorem storageOrder_integer (m n : ℤ) : (integer m).storageOrder (integer n) = compare m n := by
  show (Number.Binary64.ofInt m).order (Number.Binary64.ofInt n) = _
  rw [Number.Binary64.order_eq, Number.Binary64.value_ofInt, Number.Binary64.value_ofInt,
    ← Number.Binary64.compare_mul_zpow m n 0, zpow_zero, mul_one, mul_one]
  rfl

end Cell

end FixturePlan
