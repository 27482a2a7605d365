import Mathlib.Algebra.Star.Basic
import Mathlib.Tactic.Ring
import QuantumAssembler.Scalar.Basic

/-!
Module: QuantumAssembler.Proofs.Scalar.Ring
Purpose: What scalars owe to their parts. Over parts that form a commutative ring, that is where
  arithmetic is exact, the scalars form a commutative ring, and conjugation is an involution of it
  that keeps sums and products. Parts that only have commutative operations, as parts that round do,
  still give scalars that can be exchanged in a product.
Main exports: Scalar.mul_comm_of_parts, Scalar.conjugate_conjugate, Scalar.conjugate_add,
  Scalar.conjugate_mul, the instances LawfulBEq, CommRing and StarRing
-/

namespace QuantumAssembler.Scalar

universe u

variable {α : Type u}

attribute [ext] Scalar

/-- If equality of parts is the test for them, equality of scalars is the test for scalars. -/
instance [BEq α] [LawfulBEq α] : LawfulBEq (Scalar α) where
  eq_of_beq {z w} same := by
    obtain ⟨re, im⟩ := Bool.and_eq_true_iff.mp same
    exact Scalar.ext (eq_of_beq re) (eq_of_beq im)
  rfl {z} := Bool.and_eq_true_iff.mpr ⟨BEq.rfl, BEq.rfl⟩

/-! ### Parts of results -/

section Parts

variable (z w : Scalar α)

@[simp] theorem re_zero [Zero α] : (0 : Scalar α).re = 0 := rfl

@[simp] theorem im_zero [Zero α] : (0 : Scalar α).im = 0 := rfl

@[simp] theorem re_one [Zero α] [One α] : (1 : Scalar α).re = 1 := rfl

@[simp] theorem im_one [Zero α] [One α] : (1 : Scalar α).im = 0 := rfl

@[simp] theorem re_add [Add α] : (z + w).re = z.re + w.re := rfl

@[simp] theorem im_add [Add α] : (z + w).im = z.im + w.im := rfl

@[simp] theorem re_neg [Neg α] : (-z).re = -z.re := rfl

@[simp] theorem im_neg [Neg α] : (-z).im = -z.im := rfl

@[simp] theorem re_mul [Add α] [Sub α] [Mul α] : (z * w).re = z.re * w.re - z.im * w.im := rfl

@[simp] theorem im_mul [Add α] [Sub α] [Mul α] : (z * w).im = z.re * w.im + z.im * w.re := rfl

@[simp] theorem re_conjugate [Neg α] : z.conjugate.re = z.re := rfl

@[simp] theorem im_conjugate [Neg α] : z.conjugate.im = -z.im := rfl

end Parts

/-! ### Parts that round -/

/-- Factors can be exchanged if this is so for the parts and if the parts can be exchanged in sums. -/
theorem mul_comm_of_parts [Add α] [Sub α] [Mul α] (add_comm : ∀ x y : α, x + y = y + x)
    (mul_comm : ∀ x y : α, x * y = y * x) (z w : Scalar α) : z * w = w * z := by
  ext
  · rw [re_mul, re_mul, mul_comm z.re, mul_comm z.im]
  · rw [im_mul, im_mul, add_comm, mul_comm z.re, mul_comm z.im]

/-- Conjugation undoes itself if the negation of parts does. -/
theorem conjugate_conjugate [Neg α] (neg_neg : ∀ x : α, - -x = x) (z : Scalar α) :
    z.conjugate.conjugate = z := by
  ext
  · rfl
  · exact neg_neg z.im

/-! ### Exact parts -/

section Exact

variable [CommRing α]

instance : CommRing (Scalar α) where
  add_assoc z w v := by ext <;> exact add_assoc _ _ _
  zero_add z := by ext <;> exact zero_add _
  add_zero z := by ext <;> exact add_zero _
  add_comm z w := by ext <;> exact add_comm _ _
  neg_add_cancel z := by ext <;> exact neg_add_cancel _
  sub_eq_add_neg z w := rfl
  left_distrib z w v := by
    ext
    · simp only [re_add, im_add, re_mul]
      ring
    · simp only [re_add, im_add, im_mul]
      ring
  right_distrib z w v := by
    ext
    · simp only [re_add, im_add, re_mul]
      ring
    · simp only [re_add, im_add, im_mul]
      ring
  zero_mul z := by ext <;> simp
  mul_zero z := by ext <;> simp
  one_mul z := by ext <;> simp
  mul_one z := by ext <;> simp
  mul_assoc z w v := by
    ext
    · simp only [re_mul, im_mul]
      ring
    · simp only [re_mul, im_mul]
      ring
  mul_comm z w := mul_comm_of_parts add_comm mul_comm z w
  nsmul := nsmulRec
  zsmul := zsmulRec

theorem conjugate_add (z w : Scalar α) : (z + w).conjugate = z.conjugate + w.conjugate := by
  ext
  · rfl
  · exact neg_add z.im w.im

theorem conjugate_mul (z w : Scalar α) : (z * w).conjugate = w.conjugate * z.conjugate := by
  ext
  · simp only [re_conjugate, im_conjugate, re_mul]
    ring
  · simp only [re_conjugate, im_conjugate, im_mul]
    ring

/-- Conjugation keeps sums and products and undoes itself. -/
instance : StarRing (Scalar α) where
  star := conjugate
  star_involutive := conjugate_conjugate neg_neg
  star_add := conjugate_add
  star_mul := conjugate_mul

end Exact

end QuantumAssembler.Scalar
