import Mathlib.Analysis.InnerProductSpace.PiL2
import QuantumAssembler.Proofs.DenseMatrix.Numbers

/-!
Module: QuantumAssembler.Proofs.DenseMatrix.Euclidean
Purpose: Columns of real and imaginary parts as vectors of Euclidean space. Scalars with real parts
  are the complex numbers; the inner product of two columns is that of their vectors, and the root
  of all squared moduli is the length of the vector. So the inequality of Cauchy and Schwarz holds
  for the inner product of columns.
Main exports: Scalar.toComplex, DenseMatrix.toVector, DenseMatrix.toVector_inj,
  DenseMatrix.norm_toVector_sq, DenseMatrix.norm_trace_le,
  DenseMatrix.squaredModulus_innerProduct_le
-/

namespace QuantumAssembler

namespace Scalar

/-- The complex number with the same parts. -/
def toComplex (z : Scalar ℝ) : ℂ :=
  ⟨z.re, z.im⟩

theorem toComplex_inj {z w : Scalar ℝ} : z.toComplex = w.toComplex ↔ z = w := by
  rw [Complex.ext_iff, Scalar.ext_iff]
  rfl

theorem toComplex_sub (z w : Scalar ℝ) : (z - w).toComplex = z.toComplex - w.toComplex := rfl

theorem toComplex_conjugate_mul (z w : Scalar ℝ) :
    (z.conjugate * w).toComplex = (starRingEnd ℂ) z.toComplex * w.toComplex := by
  apply Complex.ext
  · simp [toComplex]
  · simp [toComplex]

theorem toComplex_sum {ι : Type*} (s : Finset ι) (f : ι → Scalar ℝ) :
    (∑ i ∈ s, f i).toComplex = ∑ i ∈ s, (f i).toComplex := by
  apply Complex.ext
  · rw [Complex.re_sum]
    exact re_sum s f
  · rw [Complex.im_sum]
    exact im_sum s f

/-- The squared modulus is the square of the absolute value. -/
theorem norm_toComplex_sq (z : Scalar ℝ) : ‖z.toComplex‖ ^ 2 = z.squaredModulus :=
  (Complex.sq_norm z.toComplex).trans (Complex.normSq_apply z.toComplex)

end Scalar

namespace DenseMatrix

open Matrix

variable {n : Nat} (v w : Matrix (Fin n) (Fin 1) (Scalar ℝ))

/-- The elements of a column as the coordinates of a vector. -/
noncomputable def toVector : EuclideanSpace ℂ (Fin n) :=
  WithLp.toLp 2 fun i => (v i 0).toComplex

variable {v w} in
/-- Different columns have different vectors. -/
theorem toVector_inj : toVector v = toVector w ↔ v = w := by
  refine ⟨fun same => Matrix.ext fun i j => ?_, congrArg toVector⟩
  rw [Subsingleton.elim j 0, ← Scalar.toComplex_inj]
  exact congrFun (WithLp.toLp_injective 2 same) i

theorem toVector_sub : toVector (v - w) = toVector v - toVector w :=
  congrArg (WithLp.toLp 2) (funext fun i => Scalar.toComplex_sub (v i 0) (w i 0))

theorem norm_toVector_sq [NeZero n] : ‖toVector v‖ ^ 2 = (ofMatrix v).mass := by
  rw [EuclideanSpace.norm_sq_eq, mass_ofMatrix_column]
  exact Finset.sum_congr rfl fun i _ => (v i 0).norm_toComplex_sq

/-- The inner product of two columns is that of their vectors, and so at most the product of the
    lengths of these. -/
theorem norm_trace_le : ‖(vᴴ * w).trace.toComplex‖ ≤ ‖toVector v‖ * ‖toVector w‖ := by
  have bound := norm_inner_le_norm (𝕜 := ℂ) (toVector v) (toVector w)
  rw [PiLp.inner_apply] at bound
  rw [trace_columns, Scalar.toComplex_sum]
  simpa only [Scalar.toComplex_conjugate_mul, RCLike.inner_apply', toVector] using bound

/-- Cauchy and Schwarz: the squared modulus of the inner product of two columns is at most the
    product of the sums of their squared moduli. -/
theorem squaredModulus_innerProduct_le {v w : DenseMatrix (Scalar ℝ)} {z : Scalar ℝ}
    (first : v.shape = ⟨n, 1⟩) (second : w.shape = ⟨n, 1⟩) (product : v.innerProduct w = .ok z) :
    z.squaredModulus ≤ v.mass * w.mass := by
  obtain ⟨_, _, v, rfl⟩ := exists_ofMatrix first
  obtain ⟨_, _, w, rfl⟩ := exists_ofMatrix second
  cases (innerProduct_ofMatrix v w).symm.trans product
  calc (vᴴ * w).trace.squaredModulus = ‖(vᴴ * w).trace.toComplex‖ ^ 2 :=
        (Scalar.norm_toComplex_sq _).symm
    _ ≤ (‖toVector v‖ * ‖toVector w‖) ^ 2 :=
        pow_le_pow_left₀ (norm_nonneg _) (norm_trace_le v w) 2
    _ = (ofMatrix v).mass * (ofMatrix w).mass := by
        rw [mul_pow, norm_toVector_sq, norm_toVector_sq]

end DenseMatrix

end QuantumAssembler
