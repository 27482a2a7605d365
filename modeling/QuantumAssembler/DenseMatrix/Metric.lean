import QuantumAssembler.DenseMatrix.Arithmetic

/-!
Module: QuantumAssembler.DenseMatrix.Metric
Purpose: Inner products, norms and distances. For two columns of equal length the inner product
  conjugates its left operand; for two square matrices of equal size it does not. So the norm of a
  square matrix may be undefined, and a matrix is divided by its norm only if that is a finite
  number other than zero.
Main exports: DenseMatrix.innerProduct, DenseMatrix.norm, DenseMatrix.distance,
  DenseMatrix.normalize
-/

namespace QuantumAssembler.DenseMatrix

universe u

variable {α : Type u}

section Products

variable [Zero α] [Add α] [Neg α] [Sub α] [Mul α]

/-- The inner product. -/
def innerProduct (v w : DenseMatrix (Scalar α)) : Except AlgebraFailure (Scalar α) :=
  if v.isColumn && w.isColumn then
    if v.rows = w.rows then do
      (← v.adjoint.multiply w).trace
    else .error (.shapeMismatch .innerProduct v.shape w.shape)
  else if v.isSquare ∧ v.shape = w.shape then do
    (← v.transpose.multiply w).trace
  else .error (.shapeMismatch .innerProduct v.shape w.shape)

variable [SquareRoot α]

/-- The square root of the real part of the inner product with itself. -/
def norm (m : DenseMatrix (Scalar α)) : Except AlgebraFailure α := do
  return SquareRoot.sqrt (← m.innerProduct m).re

/-- The norm of the difference. -/
def distance (v w : DenseMatrix (Scalar α)) : Except AlgebraFailure α := do
  (← v.subtract w).norm

variable [Div α] [BEq α]

/-- The matrix divided by its norm. -/
def normalize (m : DenseMatrix (Scalar α)) : Except AlgebraFailure (DenseMatrix (Scalar α)) := do
  let norm ← m.norm
  if !SquareRoot.isFinite norm then
    .error (.invalidOperand (.noRealNorm m.shape))
  else if norm == 0 then .error .divideByZero
  else return m.map fun z => ⟨z.re / norm, z.im / norm⟩

end Products

end QuantumAssembler.DenseMatrix
