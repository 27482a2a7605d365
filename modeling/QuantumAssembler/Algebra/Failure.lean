/-!
Module: QuantumAssembler.Algebra.Failure
Purpose: The shapes of matrices and how their cells are counted, the causes for which an operation on
  scalars or matrices has no result, and the wording of these.
Main exports: Shape, Shape.cellCount, Operation, OperandFault, AlgebraFailure,
  AlgebraFailure.message
-/

namespace QuantumAssembler

/-- The numbers of rows and columns of a matrix. -/
structure Shape where
  rows : Nat
  cols : Nat
deriving DecidableEq, Repr

/-- Cells are counted modulo this bound. -/
def cellBound : Nat := Nat.pow 2 64

namespace Shape

/-- A shape as it is written in messages. -/
def text (s : Shape) : String :=
  toString s.rows ++ "x" ++ toString s.cols

/-- The number of cells, as it is counted. -/
def cellCount (s : Shape) : Nat :=
  s.rows * s.cols % cellBound

/-- Cells that are fewer than the bound are counted as they are. -/
theorem cellCount_of_lt {s : Shape} (countable : s.rows * s.cols < cellBound) :
    s.cellCount = s.rows * s.cols :=
  Nat.mod_eq_of_lt countable

end Shape

/-- The operations that ask for certain shapes. -/
inductive Operation where
  | construct
  | add
  | subtract
  | multiply
  | innerProduct
  | observe
  | probabilityAt
  | register
deriving DecidableEq, Repr

namespace Operation

/-- The name of an operation in messages. -/
def name : Operation → String
  | construct => "construct"
  | add => "add"
  | subtract => "subtract"
  | multiply => "multiply"
  | innerProduct => "inner_product"
  | observe => "observe"
  | probabilityAt => "probability_at"
  | register => "register"

end Operation

/-- Why an operand cannot be used. -/
inductive OperandFault where
  /-- A scalar was to be made of a number of parts other than two. -/
  | partCount (found : Nat)
  /-- A text that writes no scalar. -/
  | notAScalar (spelling : String)
  /-- A matrix was to be divided by its norm, which is not a finite number. -/
  | noRealNorm (shape : Shape)
  /-- A matrix was to be divided by its squared norm, which is not a finite number. -/
  | noRealSquaredNorm
  /-- An observable that differs from its adjoint. -/
  | notHermitian
deriving DecidableEq, Repr

namespace OperandFault

/-- The wording of an operand fault. -/
def text : OperandFault → String
  | partCount found => "a complex number needs exactly 2 parts, got " ++ toString found
  | notAScalar spelling => "'" ++ spelling ++ "' is not a complex number"
  | noRealNorm shape => shape.text ++ " matrix has no real norm"
  | noRealSquaredNorm => "matrix has no real norm"
  | notHermitian => "the observable must be a hermitian matrix"

end OperandFault

/-- Why an operation of the algebra has no result. -/
inductive AlgebraFailure where
  | shapeMismatch (operation : Operation) (expected actual : Shape)
  | notSquare (actual : Shape)
  | divideByZero
  | invalidOperand (fault : OperandFault)
  /-- A position behind the last element of a state. -/
  | noSuchPosition (position length : Nat)
  /-- A row or column behind the last of a matrix. -/
  | noSuchEntry (row col : Nat) (shape : Shape)
deriving DecidableEq, Repr

namespace AlgebraFailure

/-- The wording of a failure. -/
def message : AlgebraFailure → String
  | shapeMismatch operation expected actual =>
    "Shape mismatch in " ++ operation.name ++ ": expected " ++ expected.text ++ ", found " ++
      actual.text
  | notSquare actual => "Matrix must be square, found " ++ actual.text
  | divideByZero => "Can't divide a complex number by 0"
  | invalidOperand fault => "Invalid operand: " ++ fault.text
  | noSuchPosition position length =>
    "Index out of range: position " ++ toString position ++ " of a " ++ toString length ++
      "-element state"
  | noSuchEntry row col shape =>
    "index (" ++ toString row ++ ", " ++ toString col ++ ") out of bounds for " ++ shape.text ++
      " matrix"

end AlgebraFailure

end QuantumAssembler
