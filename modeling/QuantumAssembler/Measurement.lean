import QuantumAssembler.DenseMatrix.Metric

/-!
Module: QuantumAssembler.Measurement
Purpose: Observation of states and their evolution in discrete time. A state is a column; an
  observable is a square matrix that is its own adjoint. Probabilities are squared moduli divided
  by the squared norm of the state.
Main exports: observe, expectedValue, probabilityAt, transitionAmplitude, probabilities, evolve
-/

namespace QuantumAssembler.Measurement

universe u

variable {α : Type u}

section Observation

variable [Zero α] [Add α] [Neg α] [Sub α] [Mul α] [BEq α]

/-- Applies an observable to a state. The observable has to be square, the state a column as long as
    the observable is wide, and the observable hermitian, in this order. -/
def observe (state observable : DenseMatrix (Scalar α)) :
    Except AlgebraFailure (DenseMatrix (Scalar α)) :=
  if !observable.isSquare then .error (.notSquare observable.shape)
  else if !(state.isColumn && state.rows == observable.cols) then
    .error (.shapeMismatch .observe ⟨observable.cols, 1⟩ state.shape)
  else if !observable.isHermitian then .error (.invalidOperand .notHermitian)
  else observable.multiply state

/-- The mean value of an observable in a state. -/
def expectedValue (state observable : DenseMatrix (Scalar α)) : Except AlgebraFailure α := do
  let observed ← observe state observable
  return (← state.innerProduct observed).re

end Observation

section Probability

variable [Zero α] [Add α] [Neg α] [Sub α] [Mul α] [Div α] [BEq α] [SquareRoot α]

/-- The probability of finding a state at a position. -/
def probabilityAt (state : DenseMatrix (Scalar α)) (position : Nat) : Except AlgebraFailure α :=
  if !state.isColumn then .error (.shapeMismatch .probabilityAt ⟨state.rows, 1⟩ state.shape)
  else match state.cell? position 0 with
    | none => .error (.noSuchPosition position state.rows)
    | some amplitude => do
      let norm ← state.norm
      if norm == 0 then .error .divideByZero
      else
        let modulus := amplitude.modulus
        return modulus * modulus / (norm * norm)

/-- The inner product of two states divided by the product of their norms. -/
def transitionAmplitude (start finish : DenseMatrix (Scalar α)) :
    Except AlgebraFailure (Scalar α) := do
  let product ← start.innerProduct finish
  let startNorm ← start.norm
  let finishNorm ← finish.norm
  product.divide (.ofReal (startNorm * finishNorm))

/-- The squared modulus of each cell divided by the squared norm. -/
def probabilities (m : DenseMatrix (Scalar α)) :
    Except AlgebraFailure (DenseMatrix (Scalar α)) := do
  let norm ← m.norm
  let squaredNorm := norm * norm
  if !SquareRoot.isFinite squaredNorm then .error (.invalidOperand .noRealSquaredNorm)
  else if squaredNorm == 0 then .error .divideByZero
  else
    return m.map fun z =>
      let modulus := z.modulus
      .ofReal (modulus * modulus / squaredNorm)

end Probability

/-- The states that arise when `dynamics` is applied to a state once, twice, and so on up to `steps`
    times. -/
def evolve {κ : Type u} [Zero κ] [Add κ] [Mul κ] (dynamics : DenseMatrix κ) :
    DenseMatrix κ → Nat → Except AlgebraFailure (List (DenseMatrix κ))
  | _, 0 => .ok []
  | state, steps + 1 => do
    let next ← dynamics.multiply state
    let others ← evolve dynamics next steps
    return next :: others

end QuantumAssembler.Measurement
