import QuantumAssembler.DenseMatrix.Basic
import QuantumAssembler.Scalar.Basic

/-!
Module: QuantumAssembler.DenseMatrix.Arithmetic
Purpose: Sums, products and transposes of matrices, and the tensor product. Operations that need
  fitting shapes fail with both shapes if these do not fit. Sums of cells start from zero and run
  in order.
Main exports: DenseMatrix.add, DenseMatrix.subtract, DenseMatrix.multiply, DenseMatrix.transpose,
  DenseMatrix.adjoint, DenseMatrix.trace, DenseMatrix.tensor
-/

namespace QuantumAssembler.DenseMatrix

universe u

variable {κ : Type u}

/-- The sum of `n` cells, from zero on and from first to last. -/
def sumFn [Zero κ] [Add κ] (n : Nat) (f : Fin n → κ) : κ :=
  Fin.foldl n (fun total k => total + f k) 0

/-- Combines two matrices of one shape cell by cell. -/
def zipWith (operation : Operation) (f : κ → κ → κ) (a b : DenseMatrix κ) :
    Except AlgebraFailure (DenseMatrix κ) :=
  if h : a.rows = b.rows ∧ a.cols = b.cols then
    .ok (ofFn a.rows a.cols a.rows_pos a.cols_pos fun i j =>
      f (a.entry i j) (b.entry (i.cast h.1) (j.cast h.2)))
  else .error (.shapeMismatch operation a.shape b.shape)

/-- The sum, cell by cell. -/
def add [Add κ] (a b : DenseMatrix κ) : Except AlgebraFailure (DenseMatrix κ) :=
  zipWith .add (· + ·) a b

/-- The difference, cell by cell. -/
def subtract [Sub κ] (a b : DenseMatrix κ) : Except AlgebraFailure (DenseMatrix κ) :=
  zipWith .subtract (· - ·) a b

/-- The matrix with every cell negated. -/
def negate [Neg κ] (m : DenseMatrix κ) : DenseMatrix κ :=
  m.map (- ·)

/-- The matrix with every cell multiplied by `factor`, which stands on the left. -/
def scale [Mul κ] (m : DenseMatrix κ) (factor : κ) : DenseMatrix κ :=
  m.map (factor * ·)

/-- The product of rows with columns, for a left operand that is as wide as the right is high. -/
def product [Zero κ] [Add κ] [Mul κ] (a b : DenseMatrix κ) (fits : a.cols = b.rows) :
    DenseMatrix κ :=
  ofFn a.rows b.cols a.rows_pos b.cols_pos fun i j =>
    sumFn a.cols fun k => a.entry i k * b.entry (k.cast fits) j

/-- The matrix product. -/
def multiply [Zero κ] [Add κ] [Mul κ] (a b : DenseMatrix κ) :
    Except AlgebraFailure (DenseMatrix κ) :=
  if fits : a.cols = b.rows then .ok (a.product b fits)
  else .error (.shapeMismatch .multiply a.shape b.shape)

/-- The matrix with rows and columns exchanged. -/
def transpose (m : DenseMatrix κ) : DenseMatrix κ :=
  ofFn m.cols m.rows m.cols_pos m.rows_pos fun j i => m.entry i j

/-- The sum of the diagonal of a square matrix. -/
def trace [Zero κ] [Add κ] (m : DenseMatrix κ) : Except AlgebraFailure κ :=
  if square : m.rows = m.cols then .ok (sumFn m.rows fun i => m.entry i (i.cast square))
  else .error (.notSquare m.shape)

/-- The identity matrix of the same size, for a square matrix. -/
def identityLike? [Zero κ] [One κ] (m : DenseMatrix κ) : Option (DenseMatrix κ) :=
  if m.isSquare then some (diagonal m.rows m.rows_pos) else none

/-- The tensor product: each cell of the left operand times a whole copy of the right one. -/
def tensor [Mul κ] (a b : DenseMatrix κ) : DenseMatrix κ :=
  ofFn (a.rows * b.rows) (a.cols * b.cols) (Nat.mul_pos a.rows_pos b.rows_pos)
    (Nat.mul_pos a.cols_pos b.cols_pos) fun i j =>
      a.entry ⟨i / b.rows, (Nat.div_lt_iff_lt_mul b.rows_pos).2 i.isLt⟩
          ⟨j / b.cols, (Nat.div_lt_iff_lt_mul b.cols_pos).2 j.isLt⟩ *
        b.entry ⟨i % b.rows, Nat.mod_lt _ b.rows_pos⟩ ⟨j % b.cols, Nat.mod_lt _ b.cols_pos⟩

/-- A transposed matrix has its entries mirrored at the diagonal. -/
@[simp] theorem entry_transpose (m : DenseMatrix κ) (j : Fin m.cols) (i : Fin m.rows) :
    m.transpose.entry j i = m.entry i j :=
  entry_ofFn (fun j i => m.entry i j) j i

/-- Each entry of a product is the sum over a row and a column. -/
@[simp] theorem entry_product [Zero κ] [Add κ] [Mul κ] (a b : DenseMatrix κ)
    (fits : a.cols = b.rows) (i : Fin a.rows) (j : Fin b.cols) :
    (a.product b fits).entry i j =
      sumFn a.cols fun k => a.entry i k * b.entry (k.cast fits) j :=
  entry_ofFn (fun i j => sumFn a.cols fun k => a.entry i k * b.entry (k.cast fits) j) i j

/-! ### Matrices of scalars -/

variable {α : Type u}

/-- The matrix of the conjugate cells. -/
def conjugate [Neg α] (m : DenseMatrix (Scalar α)) : DenseMatrix (Scalar α) :=
  m.map Scalar.conjugate

/-- The conjugate transpose. -/
def adjoint [Neg α] (m : DenseMatrix (Scalar α)) : DenseMatrix (Scalar α) :=
  m.conjugate.transpose

/-- Whether a matrix is square and exactly its own adjoint. -/
def isHermitian [Neg α] [BEq α] (m : DenseMatrix (Scalar α)) : Bool :=
  m.isSquare && m == m.adjoint

/-- Whether a matrix is square and its product with its adjoint is exactly the identity. -/
def isUnitary [Zero α] [One α] [Add α] [Neg α] [Sub α] [Mul α] [BEq α]
    (m : DenseMatrix (Scalar α)) : Bool :=
  match m.identityLike?, m.multiply m.adjoint with
  | some one, .ok product => product == one
  | _, _ => false

end QuantumAssembler.DenseMatrix
