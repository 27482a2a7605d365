import Mathlib.Analysis.Real.Sqrt
import QuantumAssembler.Proofs.Scalar.Modulus

/-!
Module: QuantumAssembler.Proofs.Scalar.PartialReal
Purpose: Parts that are real numbers, with exact arithmetic. The root of a negative number and the
  quotient by zero are undefined; what is undefined stays so under all operations, is no finite
  number, and is equal to nothing. On scalars of numbers all operations but roots and quotients are
  those of the reals, and squared moduli come back from moduli.
Main exports: PartialReal, PartialReal.sqrt_of_nonneg, PartialReal.sqrt_of_neg,
  PartialReal.sqrt_mul_sqrt, Scalar.ofNumbers, Scalar.modulus_ofNumbers, Scalar.dividedBy,
  Scalar.divide_ofReal
-/

namespace QuantumAssembler

/-- What calculating with real numbers gives: a number, or nothing that could be called one. -/
inductive PartialReal where
  | number (x : ℝ)
  | undefined

namespace PartialReal

/-- An operation on numbers that always has a result. -/
def lift (f : ℝ → ℝ → ℝ) : PartialReal → PartialReal → PartialReal
  | number x, number y => number (f x y)
  | _, _ => undefined

instance : Zero PartialReal := ⟨number 0⟩

instance : One PartialReal := ⟨number 1⟩

noncomputable instance : Add PartialReal := ⟨lift (· + ·)⟩

noncomputable instance : Sub PartialReal := ⟨lift (· - ·)⟩

noncomputable instance : Mul PartialReal := ⟨lift (· * ·)⟩

noncomputable instance : Neg PartialReal where
  neg
    | number x => number (-x)
    | undefined => undefined

noncomputable instance : Div PartialReal where
  div
    | number x, number y => if y = 0 then undefined else number (x / y)
    | _, _ => undefined

/-- What is undefined does not even equal itself. -/
noncomputable instance : BEq PartialReal where
  beq
    | number x, number y => decide (x = y)
    | _, _ => false

noncomputable instance : SquareRoot PartialReal where
  sqrt
    | number x => if 0 ≤ x then number √x else undefined
    | undefined => undefined
  isFinite
    | number _ => true
    | undefined => false

@[simp] theorem number_mul (x y : ℝ) : number x * number y = number (x * y) := rfl

@[simp] theorem number_beq_zero (x : ℝ) : (number x == 0) = decide (x = 0) := rfl

@[simp] theorem isFinite_number (x : ℝ) : SquareRoot.isFinite (number x) = true := rfl

theorem number_div {x y : ℝ} (divisor : y ≠ 0) : number x / number y = number (x / y) :=
  if_neg divisor

theorem sqrt_of_nonneg {x : ℝ} (nonneg : 0 ≤ x) : SquareRoot.sqrt (number x) = number √x :=
  if_pos nonneg

theorem sqrt_of_neg {x : ℝ} (negative : x < 0) : SquareRoot.sqrt (number x) = undefined :=
  if_neg (not_le.mpr negative)

/-- Squaring undoes roots. -/
theorem sqrt_mul_sqrt {x : ℝ} (nonneg : 0 ≤ x) :
    SquareRoot.sqrt (number x) * SquareRoot.sqrt (number x) = number x := by
  rw [sqrt_of_nonneg nonneg, number_mul, Real.mul_self_sqrt nonneg]

end PartialReal

namespace Scalar

open PartialReal

/-- A scalar both of whose parts are numbers. -/
def ofNumbers (z : Scalar ℝ) : Scalar PartialReal :=
  ⟨number z.re, number z.im⟩

variable (z : Scalar ℝ)

theorem squaredModulus_ofNumbers : (ofNumbers z).squaredModulus = number z.squaredModulus := rfl

theorem modulus_ofNumbers : (ofNumbers z).modulus = number √z.squaredModulus :=
  sqrt_of_nonneg z.squaredModulus_nonneg

/-- The square of the modulus is the squared modulus. -/
theorem modulus_mul_modulus :
    (ofNumbers z).modulus * (ofNumbers z).modulus = number z.squaredModulus :=
  sqrt_mul_sqrt z.squaredModulus_nonneg

/-- A scalar with both parts divided by a number. -/
noncomputable def dividedBy (z : Scalar ℝ) (s : ℝ) : Scalar ℝ :=
  ⟨z.re / s, z.im / s⟩

/-- Dividing both parts by a number is multiplying by its inverse. -/
theorem dividedBy_eq_mul (s : ℝ) : z.dividedBy s = ofReal s⁻¹ * z := by
  ext
  · simp [dividedBy, div_eq_inv_mul]
  · simp [dividedBy, div_eq_inv_mul]

theorem squaredModulus_dividedBy (s : ℝ) :
    (z.dividedBy s).squaredModulus = z.squaredModulus / (s * s) := by
  rw [squaredModulus, squaredModulus, dividedBy, add_div, mul_div_mul_comm, mul_div_mul_comm]

theorem conjugate_dividedBy (s : ℝ) : (z.dividedBy s).conjugate = z.conjugate.dividedBy s :=
  Scalar.ext rfl (neg_div s z.im).symm

theorem ofReal_dividedBy {s : ℝ} (nonzero : s ≠ 0) : (ofReal s).dividedBy s = 1 :=
  Scalar.ext (div_self nonzero) (zero_div s)

/-- A scalar is divided by a real number part by part. -/
theorem divide_ofReal (s : ℝ) :
    (ofNumbers z).divide (ofReal (number s)) =
      if s = 0 then .error .divideByZero else .ok (ofNumbers (z.dividedBy s)) := by
  have denominator : (ofReal (number s)).squaredModulus = number (s * s) :=
    congrArg number (squaredModulus_ofReal s)
  rw [divide, denominator, number_beq_zero]
  by_cases zero : s = 0
  · simp [zero]
  · have square : s * s ≠ 0 := mul_ne_zero zero zero
    have re : number (z.re * s + z.im * 0) / number (s * s) = number (z.re / s) := by
      rw [number_div square, mul_zero, add_zero, mul_div_mul_right _ _ zero]
    have im : number (z.im * s - z.re * 0) / number (s * s) = number (z.im / s) := by
      rw [number_div square, mul_zero, sub_zero, mul_div_mul_right _ _ zero]
    rw [if_neg zero, if_neg (by simpa using zero)]
    exact congrArg Except.ok (congrArg₂ Scalar.mk re im)

end Scalar

end QuantumAssembler
