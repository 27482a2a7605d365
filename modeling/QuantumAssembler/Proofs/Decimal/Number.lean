import Mathlib.Algebra.Order.Field.Power
import Mathlib.Order.Compare
import QuantumAssembler.Proofs.Decimal.Root

/-!
Module: QuantumAssembler.Proofs.Decimal.Number
Purpose: The numbers that doubles stand for. Finite doubles are compared as their numbers are, although
  it is exponents that are compared first, since mantissas of doubles are not shortened. Between a
  double and the next one there is a whole unit of the last place.
Main exports: Binary.number, numberOf, numberOf_of_unpack, StandsFor, compare_double, lt_iff_numberOf,
  le_iff_numberOf, beq_iff_numberOf, IsDouble.step_up, IsDouble.step_down
-/

namespace QuantumAssembler.Decimal

open Float.Model Float.Model.UnpackedFloat

/-- The number that a double stands for, if it is finite. -/
def Binary.number : Binary → ℚ
  | .finite negative mantissa exponent =>
    (if negative then -mantissa else mantissa : ℚ) * 2 ^ exponent
  | .infinite _ => 0
  | .undefined => 0

/-- The number that a finite double stands for. -/
def numberOf (x : Float) : ℚ :=
  (Binary.ofFloat x).number

/-- One, with a sign. -/
def signUnit (s : Sign) : ℚ :=
  match s with
  | .positive => 1
  | .negative => -1

theorem signUnit_mul_self (s : Sign) : signUnit s * signUnit s = 1 := by
  cases s <;> norm_num [signUnit]

theorem signUnit_mul (s t : Sign) : signUnit (s * t) = signUnit s * signUnit t := by
  cases s <;> cases t <;> norm_num [signUnit]

theorem signUnit_div (s t : Sign) : signUnit (s / t) = signUnit s / signUnit t := by
  have same : s / t = s * t := by cases s <;> cases t <;> rfl
  rw [same, signUnit_mul, eq_div_iff (left_ne_zero_of_mul_eq_one (signUnit_mul_self t)), mul_assoc,
    signUnit_mul_self, mul_one]

theorem abs_signUnit_mul (s : Sign) (q : ℚ) : |signUnit s * q| = |q| := by
  cases s <;> simp [signUnit]

section Doubles

variable {x y : Float} {s : Sign} {m : Nat} {e : Int} {pos : 0 < m}

theorem numberOf_of_unpack (parts : x.toModel.unpack = .finite s m e pos) :
    numberOf x = signUnit s * (m * 2 ^ e) := by
  rw [numberOf, Binary.ofFloat_eq, parts]
  cases s with
  | positive => exact (one_mul _).symm
  | negative => exact (neg_mul _ _).trans (neg_one_mul _).symm

theorem numberOf_of_zero (parts : x.toModel.unpack = .zero s) : numberOf x = 0 := by
  rw [numberOf, Binary.ofFloat_eq, parts]
  exact mul_eq_zero_of_left (by cases s <;> norm_num) _

/-- Whether a double is finite and stands for a number. -/
def StandsFor (x : Float) (q : ℚ) : Prop :=
  x.isFinite = true ∧ numberOf x = q

/-- The parts of a finite double tell its number. -/
theorem standsFor_of_parts {negative : Bool} {q : ℚ}
    (parts : Binary.ofFloat x = .finite negative m e)
    (value : (if negative then -m else m : ℚ) * 2 ^ e = q) : StandsFor x q := by
  refine ⟨?_, by rw [numberOf, parts, Binary.number, value]⟩
  change x.toModel.unpack.isFinite = true
  rw [Binary.ofFloat_eq] at parts
  cases unpacked : x.toModel.unpack with
  | notANumber | infinity =>
      rw [unpacked] at parts
      cases parts
  | zero | finite => rfl

end Doubles

/-! ### Order -/

section Mantissas

variable {m n : Nat} {e f : Int}

theorem magnitude_pos (pos : 0 < m) (e : Int) : (0 : ℚ) < m * 2 ^ e :=
  mul_pos (by exact_mod_cast pos) (two_zpow_pos e)

/-- A double with a greater exponent is greater. -/
theorem IsDouble.lt_of_exponent_lt (first : IsDouble m e) (second : IsDouble n f) (less : e < f) :
    (m * 2 ^ e : ℚ) < n * 2 ^ f := by
  have fits : (m : ℚ) < 2 ^ 53 := by exact_mod_cast first.fits
  have full : (2 : ℚ) ^ 52 ≤ n := by
    have := second.full.resolve_right (by have := first.least; omega)
    exact_mod_cast this
  calc (m * 2 ^ e : ℚ) < 2 ^ 53 * 2 ^ e := mul_lt_mul_of_pos_right fits (two_zpow_pos e)
    _ ≤ 2 ^ 53 * 2 ^ (f - 1) :=
      mul_le_mul_of_nonneg_left (zpow_le_zpow_right₀ one_le_two (by omega)) (by positivity)
    _ = 2 ^ 52 * 2 ^ f := by rw [zpow_sub_one₀ two_ne_zero]; ring
    _ ≤ n * 2 ^ f := mul_le_mul_of_nonneg_right full (two_zpow_pos f).le

/-- Positive doubles are compared by their exponents first. -/
theorem IsDouble.compare_eq (first : IsDouble m e) (second : IsDouble n f) :
    (compare e f).then (compare m n) = compare (m * 2 ^ e : ℚ) (n * 2 ^ f) := by
  rcases lt_trichotomy e f with less | rfl | greater
  · rw [compare_lt_iff_lt.mpr less, compare_lt_iff_lt.mpr (first.lt_of_exponent_lt second less)]
    rfl
  · rw [compare_eq_iff_eq.mpr rfl]
    rcases lt_trichotomy m n with less | rfl | greater
    · rw [compare_lt_iff_lt.mpr less, compare_lt_iff_lt.mpr]
      · rfl
      · exact mul_lt_mul_of_pos_right (by exact_mod_cast less) (two_zpow_pos e)
    · rw [compare_eq_iff_eq.mpr rfl, compare_eq_iff_eq.mpr rfl]
      rfl
    · rw [compare_gt_iff_gt.mpr greater, compare_gt_iff_gt.mpr]
      · rfl
      · exact mul_lt_mul_of_pos_right (by exact_mod_cast greater) (two_zpow_pos e)
  · rw [compare_gt_iff_gt.mpr greater,
      compare_gt_iff_gt.mpr (second.lt_of_exponent_lt first greater)]
    rfl

end Mantissas

section Comparison

variable {x y : Float}

theorem compare_neg_neg (p q : ℚ) : compare (-p) (-q) = (compare p q).swap := by
  rcases lt_trichotomy p q with less | rfl | greater
  · rw [compare_lt_iff_lt.mpr less, compare_gt_iff_gt.mpr (neg_lt_neg less)]
    rfl
  · rw [compare_eq_iff_eq.mpr rfl, compare_eq_iff_eq.mpr rfl]
    rfl
  · rw [compare_gt_iff_gt.mpr greater, compare_lt_iff_lt.mpr (neg_lt_neg greater)]
    rfl

/-- A finite double stands for zero, or for a magnitude with a sign. -/
theorem numberOf_cases (finite : x.isFinite = true) :
    (∃ s, x.toModel.unpack = .zero s ∧ numberOf x = 0) ∨
      ∃ s m e pos, x.toModel.unpack = .finite s m e pos ∧ IsDouble m e ∧
        numberOf x = signUnit s * (m * 2 ^ e) := by
  obtain ⟨s, parts⟩ | ⟨s, m, e, pos, parts⟩ := unpack_of_isFinite finite
  · exact .inl ⟨s, parts, numberOf_of_zero parts⟩
  · exact .inr ⟨s, m, e, pos, parts, isDouble_of_unpack parts, numberOf_of_unpack parts⟩

/-- Finite doubles are compared as their numbers are. -/
theorem compare_double (finite : x.isFinite = true) (finiteToo : y.isFinite = true) :
    x.toModel.unpack.compare y.toModel.unpack = some (compare (numberOf x) (numberOf y)) := by
  obtain ⟨s, left, value⟩ | ⟨s, m, e, pos, left, double, value⟩ := numberOf_cases finite
  · obtain ⟨t, right, valueToo⟩ | ⟨t, n, f, posToo, right, -, valueToo⟩ :=
      numberOf_cases finiteToo
    · rw [left, right, value, valueToo, compare_eq_iff_eq.mpr rfl]
      rfl
    · have magnitude := magnitude_pos posToo f
      rw [left, right, value, valueToo]
      cases t with
      | positive =>
          rw [signUnit, one_mul, compare_lt_iff_lt.mpr magnitude]
          rfl
      | negative =>
          rw [signUnit, neg_one_mul, compare_gt_iff_gt.mpr (neg_neg_of_pos magnitude)]
          rfl
  · have magnitude := magnitude_pos pos e
    obtain ⟨t, right, valueToo⟩ | ⟨t, n, f, posToo, right, doubleToo, valueToo⟩ :=
      numberOf_cases finiteToo
    · rw [left, right, value, valueToo]
      cases s with
      | positive =>
          rw [signUnit, one_mul, compare_gt_iff_gt.mpr magnitude]
          rfl
      | negative =>
          rw [signUnit, neg_one_mul, compare_lt_iff_lt.mpr (neg_neg_of_pos magnitude)]
          rfl
    · have magnitudeToo := magnitude_pos posToo f
      rw [left, right, value, valueToo]
      cases s with
      | positive =>
          cases t with
          | positive =>
              rw [signUnit, one_mul, one_mul, ← double.compare_eq doubleToo]
              rfl
          | negative =>
              rw [signUnit, signUnit, one_mul, neg_one_mul,
                compare_gt_iff_gt.mpr ((neg_neg_of_pos magnitudeToo).trans magnitude)]
              rfl
      | negative =>
          cases t with
          | positive =>
              rw [signUnit, signUnit, one_mul, neg_one_mul,
                compare_lt_iff_lt.mpr ((neg_neg_of_pos magnitude).trans magnitudeToo)]
              rfl
          | negative =>
              rw [signUnit, neg_one_mul, neg_one_mul, compare_neg_neg, ← double.compare_eq doubleToo]
              rfl

theorem lt_iff_numberOf (finite : x.isFinite = true) (finiteToo : y.isFinite = true) :
    x < y ↔ numberOf x < numberOf y := by
  rw [lt_double_iff, UnpackedFloat.lt, compare_double finite finiteToo, ← compare_lt_iff_lt]
  simp

theorem le_iff_numberOf (finite : x.isFinite = true) (finiteToo : y.isFinite = true) :
    x ≤ y ↔ numberOf x ≤ numberOf y := by
  have order : x ≤ y ↔ x.toModel.unpack.le y.toModel.unpack = true := decide_eq_true_iff
  rw [order, UnpackedFloat.le, compare_double finite finiteToo, ← compare_le_iff_le]
  exact Ordering.isLE_iff_ne_gt

theorem beq_iff_numberOf (finite : x.isFinite = true) (finiteToo : y.isFinite = true) :
    (x == y) = true ↔ numberOf x = numberOf y := by
  have same : (x == y) = (x.toModel.unpack.compare y.toModel.unpack == some .eq) := rfl
  rw [same, compare_double finite finiteToo, ← compare_eq_iff_eq]
  simp

/-- No finite double is below the negative infinity. -/
theorem not_le_of_infinity (finite : x.isFinite = true)
    (unbounded : y.toModel.unpack = .infinity .negative) : ¬ x ≤ y := by
  intro le
  have order : x.toModel.unpack.le y.toModel.unpack = true := decide_eq_true_iff.mp le
  rw [unbounded] at order
  obtain ⟨s, parts⟩ | ⟨s, m, e, pos, parts⟩ := unpack_of_isFinite finite
  · rw [parts] at order
    cases s <;> cases order
  · rw [parts] at order
    cases s <;> cases order

theorem numberOf_zero : numberOf 0 = 0 :=
  numberOf_of_zero (s := .positive) rfl

theorem standsFor_zero : StandsFor 0 0 :=
  ⟨rfl, numberOf_zero⟩

theorem beq_zero_iff_numberOf (finite : x.isFinite = true) : (x == 0) = true ↔ numberOf x = 0 := by
  rw [beq_iff_numberOf finite rfl, numberOf_zero]

end Comparison

/-! ### Neighbours -/

namespace IsDouble

variable {m n : Nat} {e f : Int}

/-- A number of whole units of a lesser last place. -/
theorem exists_units (n : Nat) (below : e ≤ f) : ∃ k : Nat, (n * 2 ^ f : ℚ) = k * 2 ^ e := by
  obtain ⟨places, rfl⟩ : ∃ places : Nat, f = e + places := ⟨(f - e).toNat, by omega⟩
  refine ⟨n * 2 ^ places, ?_⟩
  rw [zpow_add₀ two_ne_zero, zpow_natCast]
  push_cast
  ring

/-- What is greater than a double is so by a unit of its last place. -/
theorem step_up (first : IsDouble m e) (second : IsDouble n f)
    (less : (m * 2 ^ e : ℚ) < n * 2 ^ f) : ((m + 1) * 2 ^ e : ℚ) ≤ n * 2 ^ f := by
  have below : e ≤ f := by
    by_contra above
    exact less.not_gt (second.lt_of_exponent_lt first (not_le.mp above))
  obtain ⟨k, units⟩ := exists_units n below
  rw [units] at less ⊢
  have more : (m : ℚ) < k := lt_of_mul_lt_mul_right less (two_zpow_pos e).le
  have next : (m + 1 : ℚ) ≤ k := by exact_mod_cast more
  exact mul_le_mul_of_nonneg_right next (two_zpow_pos e).le

/-- What is less than a double is so by a unit of its last place, or by half of it in front of a power
    of two. -/
theorem step_down (first : IsDouble m e) (second : IsDouble n f)
    (less : (n * 2 ^ f : ℚ) < m * 2 ^ e) :
    (n * 2 ^ f : ℚ) ≤ (2 * m - if IsDense m e then 1 else 2) * 2 ^ (e - 1) := by
  have half : (2 : ℚ) ^ e = 2 * 2 ^ (e - 1) := by
    rw [zpow_sub_one₀ two_ne_zero]
    ring
  have positive := two_zpow_pos (e - 1)
  by_cases below : e ≤ f
  · obtain ⟨k, units⟩ := exists_units n below
    rw [units] at less ⊢
    have fewer : (k : ℚ) < m := lt_of_mul_lt_mul_right less (two_zpow_pos e).le
    have next : (k + 1 : ℚ) ≤ m := by exact_mod_cast fewer
    rw [half, ← mul_assoc]
    apply mul_le_mul_of_nonneg_right _ positive.le
    split <;> linarith
  · have fits : (n + 1 : ℚ) ≤ 2 ^ 53 := by exact_mod_cast second.fits
    have normal : -1074 < e := by
      have := second.least
      omega
    have full : Nat.pow 2 52 ≤ m := first.full.resolve_right normal.ne'
    calc (n * 2 ^ f : ℚ) ≤ (2 ^ 53 - 1) * 2 ^ f :=
          mul_le_mul_of_nonneg_right (by linarith) (two_zpow_pos f).le
      _ ≤ (2 ^ 53 - 1) * 2 ^ (e - 1) :=
          mul_le_mul_of_nonneg_left (zpow_le_zpow_right₀ one_le_two (by omega)) (by norm_num)
      _ ≤ (2 * m - if IsDense m e then 1 else 2) * 2 ^ (e - 1) := by
          apply mul_le_mul_of_nonneg_right _ positive.le
          by_cases dense : IsDense m e
          · have least : (2 : ℚ) ^ 52 ≤ m := by exact_mod_cast full
            rw [if_pos dense]
            linarith
          · have more : Nat.pow 2 52 < m := full.lt_of_ne fun same => dense ⟨same.symm, normal⟩
            have more : (2 : ℚ) ^ 52 + 1 ≤ m := by exact_mod_cast more
            rw [if_neg dense]
            linarith

end IsDouble

end QuantumAssembler.Decimal
