import Mathlib.Algebra.Order.Ring.Defs
import Mathlib.Algebra.Order.Ring.Unbundled.Basic
import Mathlib.Algebra.BigOperators.Group.Finset.Basic
import Mathlib.Tactic.Positivity
import QuantumAssembler.Proofs.Scalar.Ring

/-!
Module: QuantumAssembler.Proofs.Scalar.Modulus
Purpose: Squared moduli over exact parts. A scalar times its conjugate is its squared modulus, and
  the squared modulus of a product is the product of the squared moduli. Where the parts are ordered,
  a squared modulus is never negative, and it is zero for zero alone. Parts of a sum are sums of
  parts.
Main exports: Scalar.conjugate_mul_self, Scalar.squaredModulus_mul, Scalar.squaredModulus_nonneg,
  Scalar.squaredModulus_eq_zero_iff, Scalar.re_sum, Scalar.im_sum
-/

namespace QuantumAssembler.Scalar

universe u

variable {α : Type u} [CommRing α]

@[simp] theorem re_ofReal (x : α) : (ofReal x).re = x := rfl

@[simp] theorem im_ofReal (x : α) : (ofReal x).im = 0 := rfl

theorem conjugate_ofReal (x : α) : (ofReal x).conjugate = ofReal x :=
  Scalar.ext rfl neg_zero

theorem ofReal_mul_ofReal (x y : α) : ofReal x * ofReal y = ofReal (x * y) := by
  ext <;> simp

theorem re_sum {ι : Type*} (s : Finset ι) (f : ι → Scalar α) :
    (∑ i ∈ s, f i).re = ∑ i ∈ s, (f i).re :=
  map_sum (AddMonoidHom.mk' (re : Scalar α → α) fun z w => re_add z w) f s

theorem im_sum {ι : Type*} (s : Finset ι) (f : ι → Scalar α) :
    (∑ i ∈ s, f i).im = ∑ i ∈ s, (f i).im :=
  map_sum (AddMonoidHom.mk' (im : Scalar α → α) fun z w => im_add z w) f s

/-- A scalar times its conjugate has no imaginary part. -/
theorem conjugate_mul_self (z : Scalar α) : z.conjugate * z = ofReal z.squaredModulus := by
  ext
  · simp only [re_mul, re_conjugate, im_conjugate, re_ofReal, squaredModulus]
    ring
  · simp only [im_mul, re_conjugate, im_conjugate, im_ofReal]
    ring

theorem squaredModulus_mul (z w : Scalar α) :
    (z * w).squaredModulus = z.squaredModulus * w.squaredModulus := by
  simp only [squaredModulus, re_mul, im_mul]
  ring

theorem squaredModulus_ofReal (x : α) : (ofReal x).squaredModulus = x * x := by
  rw [squaredModulus, re_ofReal, im_ofReal, mul_zero, add_zero]

/-- What the square of a scalar lacks to its squared modulus is twice the square of the imaginary
    part. -/
theorem re_mul_self (z : Scalar α) : (z * z).re = z.squaredModulus - 2 * (z.im * z.im) := by
  simp only [squaredModulus, re_mul]
  ring

section Ordered

variable [LinearOrder α] [IsStrictOrderedRing α]

theorem squaredModulus_nonneg (z : Scalar α) : 0 ≤ z.squaredModulus :=
  add_nonneg (mul_self_nonneg z.re) (mul_self_nonneg z.im)

theorem squaredModulus_eq_zero_iff {z : Scalar α} : z.squaredModulus = 0 ↔ z = 0 := by
  rw [squaredModulus, mul_self_add_mul_self_eq_zero]
  constructor
  · rintro ⟨re, im⟩
    exact Scalar.ext re im
  · rintro rfl
    exact ⟨rfl, rfl⟩

end Ordered

end QuantumAssembler.Scalar
