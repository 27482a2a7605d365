import QuantumAssembler.Machine.Variables
import QuantumAssembler.Proofs.Decimal.Doubles
import QuantumAssembler.Proofs.DenseMatrix.OfMatrix

/-!
Module: QuantumAssembler.Proofs.DenseMatrix.Transpose
Purpose: Transposes and adjoints. Both undo themselves, and both turn a product round. The transpose
  of a product has the very sums of the product for its entries, in the same order; so all that is
  asked of the parts of scalars is that they can be exchanged in sums and in products, which doubles
  can. Adjoints of products need exact parts, since conjugation has to go through sums.
Main exports: DenseMatrix.transpose_transpose, DenseMatrix.adjoint_adjoint,
  DenseMatrix.transpose_multiply, DenseMatrix.adjoint_multiply,
  DenseMatrix.products_turned_round
-/

namespace QuantumAssembler.DenseMatrix

universe u

variable {κ : Type u} {α : Type u} {p q r : Nat}

/-- Rows and columns exchanged twice are where they were. -/
theorem transpose_transpose (m : DenseMatrix κ) : m.transpose.transpose = m := by
  cases m using ofMatrix_cases with | store a
  rw [transpose_ofMatrix, transpose_ofMatrix, Matrix.transpose_transpose]

/-- The adjoint of the adjoint is the matrix itself, if the negation of parts undoes itself. -/
theorem adjoint_adjoint [Neg α] (neg_neg : ∀ x : α, - -x = x) (m : DenseMatrix (Scalar α)) :
    m.adjoint.adjoint = m := by
  cases m using ofMatrix_cases with | store a
  rw [adjoint_ofMatrix_map, adjoint_ofMatrix_map]
  exact congrArg ofMatrix (Matrix.ext fun i j => Scalar.conjugate_conjugate neg_neg (a i j))

/-- The transpose of a product is the product of the transposes in the other order, if cells can be
    exchanged in products. Nothing is asked of sums. -/
theorem transpose_multiply [Zero κ] [Add κ] [Mul κ] (mul_comm : ∀ x y : κ, x * y = y * x)
    {a b : DenseMatrix κ} (left : a.shape = ⟨p, q⟩) (right : b.shape = ⟨q, r⟩) :
    BothYield ⟨r, p⟩ (do return (← a.multiply b).transpose)
      (b.transpose.multiply a.transpose) := by
  obtain ⟨_, _, a, rfl⟩ := exists_ofMatrix left
  obtain ⟨_, _, b, rfl⟩ := exists_ofMatrix right
  have turned : (Matrix.of fun i j => sumFn q fun k => a i k * b k j).transpose =
      .of fun j i => sumFn q fun k => b k j * a i k := by
    ext j i
    exact congrArg (sumFn q) (funext fun k => mul_comm (a i k) (b k j))
  refine ⟨ofMatrix (.of fun j i => sumFn q fun k => b k j * a i k), ?_, ?_, rfl⟩
  · rw [multiply_ofMatrix_sumFn, ← turned]
    exact congrArg Except.ok (transpose_ofMatrix _)
  · rw [transpose_ofMatrix, transpose_ofMatrix]
    exact multiply_ofMatrix_sumFn b.transpose a.transpose

/-- The adjoint of a product is the product of the adjoints in the other order. -/
theorem adjoint_multiply [CommRing α] {a b : DenseMatrix (Scalar α)} (left : a.shape = ⟨p, q⟩)
    (right : b.shape = ⟨q, r⟩) :
    BothYield ⟨r, p⟩ (do return (← a.multiply b).adjoint) (b.adjoint.multiply a.adjoint) := by
  obtain ⟨_, _, a, rfl⟩ := exists_ofMatrix left
  obtain ⟨_, _, b, rfl⟩ := exists_ofMatrix right
  refine ⟨ofMatrix (a * b).conjTranspose, ?_, ?_, rfl⟩
  · rw [multiply_ofMatrix]
    exact congrArg Except.ok (adjoint_ofMatrix (a * b))
  · rw [adjoint_ofMatrix, adjoint_ofMatrix, multiply_ofMatrix, Matrix.conjTranspose_mul]

/-- Transposes and adjoints undo themselves and turn products round. For transposes of products the
    parts need commutative operations and no other law, so this holds for doubles as they are
    computed; for adjoints of products the parts are exact. -/
theorem products_turned_round :
    (∀ (κ : Type u) (a : DenseMatrix κ), a.transpose.transpose = a) ∧
    (∀ (α : Type u) [Neg α] (a : DenseMatrix (Scalar α)),
      (∀ x : α, - -x = x) → a.adjoint.adjoint = a) ∧
    (∀ (α : Type u) [Zero α] [Add α] [Sub α] [Mul α] (a b : DenseMatrix (Scalar α)),
      (∀ x y : α, x + y = y + x) → (∀ x y : α, x * y = y * x) → a.cols = b.rows →
        BothYield ⟨b.cols, a.rows⟩ (do return (← a.multiply b).transpose)
          (b.transpose.multiply a.transpose)) ∧
    (∀ a b : FloatMatrix, a.adjoint.adjoint = a ∧
      (a.cols = b.rows →
        BothYield ⟨b.cols, a.rows⟩ (do return (← a.multiply b).transpose)
          (b.transpose.multiply a.transpose))) ∧
    ∀ (α : Type u) [CommRing α] (a b : DenseMatrix (Scalar α)), a.cols = b.rows →
      BothYield ⟨b.cols, a.rows⟩ (do return (← a.multiply b).adjoint)
        (b.adjoint.multiply a.adjoint) := by
  refine ⟨?_, ?_, ?_, ?_, ?_⟩
  · intro κ a
    exact a.transpose_transpose
  · intro α _ a neg_neg
    exact a.adjoint_adjoint neg_neg
  · intro α _ _ _ _ a b add_comm mul_comm fits
    exact transpose_multiply (Scalar.mul_comm_of_parts add_comm mul_comm) rfl (shape_of_fits fits)
  · intro a b
    refine ⟨a.adjoint_adjoint Decimal.neg_neg_double, fun fits => ?_⟩
    exact transpose_multiply
      (Scalar.mul_comm_of_parts Decimal.add_comm_double Decimal.mul_comm_double) rfl
      (shape_of_fits fits)
  · intro α _ a b fits
    exact adjoint_multiply rfl (shape_of_fits fits)

/-- A row times a square of doubles, one of which is not a number, and of complex integers. -/
theorem products_turned_round_row :
    let a : FloatMatrix := ⟨1, 2, #[⟨0.1, -2⟩, ⟨0, 1e300⟩], by decide, by decide, rfl⟩
    let b : FloatMatrix :=
      ⟨2, 2, #[⟨0.7, 3⟩, ⟨0 / 0, 1⟩, ⟨1e300, -0.3⟩, ⟨0, 0⟩], by decide, by decide, rfl⟩
    let c : DenseMatrix (Scalar ℤ) := ⟨1, 2, #[⟨1, 2⟩, ⟨0, -1⟩], by decide, by decide, rfl⟩
    let d : DenseMatrix (Scalar ℤ) :=
      ⟨2, 2, #[⟨0, 1⟩, ⟨3, 0⟩, ⟨-2, 1⟩, ⟨1, 1⟩], by decide, by decide, rfl⟩
    (∀ x : Float, - -x = x) ∧ (∀ x y : Float, x + y = y + x) ∧ (∀ x y : Float, x * y = y * x) ∧
      a.cols = b.rows ∧ c.cols = d.rows ∧ a.adjoint.adjoint = a ∧
      BothYield ⟨2, 1⟩ (do return (← a.multiply b).transpose)
        (b.transpose.multiply a.transpose) ∧
      BothYield ⟨2, 1⟩ (do return (← c.multiply d).adjoint) (d.adjoint.multiply c.adjoint) := by
  intro a b c d
  obtain ⟨-, adjoints, transposes, -, exact⟩ := products_turned_round
  exact ⟨Decimal.neg_neg_double, Decimal.add_comm_double, Decimal.mul_comm_double, rfl, rfl,
    adjoints Float a Decimal.neg_neg_double,
    transposes Float a b Decimal.add_comm_double Decimal.mul_comm_double rfl,
    exact ℤ c d rfl⟩

end QuantumAssembler.DenseMatrix
