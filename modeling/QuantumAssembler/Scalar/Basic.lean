import QuantumAssembler.Algebra.Failure

/-!
Module: QuantumAssembler.Scalar.Basic
Purpose: Complex scalars over any type of parts that has the arithmetic at hand. The order of the
  operations is part of each definition, because parts may round. Equality is exact and part by
  part. Division is the only operation on scalars that can fail.
Main exports: SquareRoot, Scalar, Scalar.conjugate, Scalar.divide, Scalar.modulus
-/

namespace QuantumAssembler

universe u

/-- Parts that have square roots. A square root may be undefined; `isFinite` tells. -/
class SquareRoot (α : Type u) where
  sqrt : α → α
  isFinite : α → Bool

instance : SquareRoot Float where
  sqrt := Float.sqrt
  isFinite := Float.isFinite

/-- A complex scalar: real part and imaginary part. -/
structure Scalar (α : Type u) where
  re : α
  im : α
deriving Repr

namespace Scalar

variable {α : Type u}

instance [Inhabited α] : Inhabited (Scalar α) := ⟨⟨default, default⟩⟩

/-- Scalars are equal if both parts are. -/
instance [BEq α] : BEq (Scalar α) := ⟨fun z w => z.re == w.re && z.im == w.im⟩

instance [Zero α] : Zero (Scalar α) := ⟨⟨0, 0⟩⟩

instance [Zero α] [One α] : One (Scalar α) := ⟨⟨1, 0⟩⟩

instance [Add α] : Add (Scalar α) := ⟨fun z w => ⟨z.re + w.re, z.im + w.im⟩⟩

instance [Neg α] : Neg (Scalar α) := ⟨fun z => ⟨-z.re, -z.im⟩⟩

/-- A difference is the sum with the negated second operand. -/
instance [Add α] [Neg α] : Sub (Scalar α) := ⟨fun z w => z + -w⟩

instance [Add α] [Sub α] [Mul α] : Mul (Scalar α) :=
  ⟨fun z w => ⟨z.re * w.re - z.im * w.im, z.re * w.im + z.im * w.re⟩⟩

/-- The imaginary unit. -/
def unit [Zero α] [One α] : Scalar α := ⟨0, 1⟩

/-- The scalar with a given real part and no imaginary part. -/
def ofReal [Zero α] (x : α) : Scalar α := ⟨x, 0⟩

/-- A scalar of exactly two parts. -/
def ofParts : List α → Except AlgebraFailure (Scalar α)
  | [re, im] => .ok ⟨re, im⟩
  | parts => .error (.invalidOperand (.partCount parts.length))

/-- Whether both parts are zero. -/
def isZero [BEq α] [Zero α] (z : Scalar α) : Bool :=
  z.re == 0 && z.im == 0

/-- The scalar with the imaginary part negated. -/
def conjugate [Neg α] (z : Scalar α) : Scalar α := ⟨z.re, -z.im⟩

/-- The sum of the squares of the parts. -/
def squaredModulus [Add α] [Mul α] (z : Scalar α) : α :=
  z.re * z.re + z.im * z.im

/-- The distance from zero. -/
def modulus [Add α] [Mul α] [SquareRoot α] (z : Scalar α) : α :=
  SquareRoot.sqrt z.squaredModulus

/-- The quotient of two scalars. It fails when the squares of the divisor's parts add up to zero. -/
def divide [Add α] [Sub α] [Mul α] [Div α] [BEq α] [Zero α] (z w : Scalar α) :
    Except AlgebraFailure (Scalar α) :=
  let denominator := w.squaredModulus
  if denominator == 0 then .error .divideByZero
  else .ok ⟨(z.re * w.re + z.im * w.im) / denominator, (z.im * w.re - z.re * w.im) / denominator⟩

/-- The sum of a row of scalars, from zero on and from first to last. -/
def sum [Zero α] [Add α] (scalars : List (Scalar α)) : Scalar α :=
  scalars.foldl (· + ·) 0

end Scalar

end QuantumAssembler
