import Mathlib.LinearAlgebra.Matrix.Kronecker
import QuantumAssembler.Proofs.DenseMatrix.OfMatrix
import QuantumAssembler.Proofs.DenseMatrix.Shape

/-!
Module: QuantumAssembler.Proofs.DenseMatrix.Kronecker
Purpose: The laws of the tensor product. Its rows and columns are numbered by pairs, of which the
  first part counts the copies of the right operand; quotient and remainder take a number apart
  again. So the tensor product is the Kronecker product of algebra, with its pairs renumbered, and
  renumbering the middle of a product makes no difference. The tensor product goes through products,
  transposes, adjoints and identity matrices, and it is associative.
Main exports: DenseMatrix.tensor_ofMatrix, DenseMatrix.tensor_multiply, DenseMatrix.tensor_assoc,
  DenseMatrix.transpose_tensor, DenseMatrix.adjoint_tensor, DenseMatrix.identity_tensor,
  DenseMatrix.tensor_laws
-/

namespace QuantumAssembler.DenseMatrix

universe u

open Matrix

variable {κ : Type u} {p q r s : Nat}

/-- The Kronecker product with its pairs of indices numbered: of the right operand there is one copy
    for each index of the left one. -/
def kron [Mul κ] (a : Matrix (Fin p) (Fin q) κ) (b : Matrix (Fin r) (Fin s) κ) :
    Matrix (Fin (p * r)) (Fin (q * s)) κ :=
  reindex finProdFinEquiv finProdFinEquiv (kroneckerMap (· * ·) a b)

theorem tensor_ofMatrix [Mul κ] [NeZero p] [NeZero q] [NeZero r] [NeZero s]
    (a : Matrix (Fin p) (Fin q) κ) (b : Matrix (Fin r) (Fin s) κ) :
    (ofMatrix a).tensor (ofMatrix b) = ofMatrix (kron a b) :=
  eq_ofMatrix rfl rfl fun i j => (entry_ofFn _ i j).trans
    (congrArg₂ (· * ·) (entry_ofMatrix a i.divNat j.divNat) (entry_ofMatrix b i.modNat j.modNat))

/-- Which of three matrices nested in each other a cell comes from, and from where in it, is told by
    dividing twice, whichever two are put together first. -/
theorem tensor_assoc [Semigroup κ] (a b c : DenseMatrix κ) :
    (a.tensor b).tensor c = a.tensor (b.tensor c) := by
  have shapes : ((a.tensor b).tensor c).shape = (a.tensor (b.tensor c)).shape :=
    congrArg₂ Shape.mk (Nat.mul_assoc a.rows b.rows c.rows) (Nat.mul_assoc a.cols b.cols c.cols)
  refine eq_of_cell? shapes fun i j => ?_
  have outer : ∀ k m n : Nat, k / n / m = k / (m * n) := by
    intro k m n
    rw [Nat.div_div_eq_div_mul, Nat.mul_comm]
  have rows : (b.tensor c).rows = b.rows * c.rows := rfl
  have cols : (b.tensor c).cols = b.cols * c.cols := rfl
  rw [cell?_tensor, cell?_tensor, cell?_tensor, cell?_tensor, rows, cols, outer, outer,
    Nat.mod_mul_left_div_self, Nat.mod_mul_left_div_self, Nat.mod_mul_left_mod,
    Nat.mod_mul_left_mod]
  -- Both sides now look up the same three cells and differ in how these are multiplied.
  simp only [bind_assoc, pure_bind, mul_assoc]

/-! ### Products -/

theorem kron_mul_kron [CommSemiring κ] {t v : Nat} (a : Matrix (Fin p) (Fin q) κ)
    (b : Matrix (Fin r) (Fin s) κ) (c : Matrix (Fin q) (Fin t) κ) (d : Matrix (Fin s) (Fin v) κ) :
    kron a b * kron c d = kron (a * c) (b * d) := by
  simp only [kron, reindex_apply]
  rw [submatrix_mul_equiv, mul_kronecker_mul]

/-- The product of tensor products is the tensor product of the products. -/
theorem tensor_multiply [CommSemiring κ] {a b c d : DenseMatrix κ} {t v : Nat}
    (first : a.shape = ⟨p, q⟩) (second : b.shape = ⟨r, s⟩) (third : c.shape = ⟨q, t⟩)
    (fourth : d.shape = ⟨s, v⟩) :
    BothYield ⟨p * r, t * v⟩ ((a.tensor b).multiply (c.tensor d))
      (do return (← a.multiply c).tensor (← b.multiply d)) := by
  obtain ⟨_, _, a, rfl⟩ := exists_ofMatrix first
  obtain ⟨_, _, b, rfl⟩ := exists_ofMatrix second
  obtain ⟨_, _, c, rfl⟩ := exists_ofMatrix third
  obtain ⟨_, _, d, rfl⟩ := exists_ofMatrix fourth
  refine ⟨ofMatrix (kron (a * c) (b * d)), ?_, ?_, rfl⟩
  · rw [tensor_ofMatrix, tensor_ofMatrix, multiply_ofMatrix, kron_mul_kron]
  · rw [multiply_ofMatrix, multiply_ofMatrix]
    exact congrArg Except.ok (tensor_ofMatrix (a * c) (b * d))

/-! ### Transposes, adjoints and identity matrices -/

theorem transpose_tensor [Mul κ] (a b : DenseMatrix κ) :
    (a.tensor b).transpose = a.transpose.tensor b.transpose := by
  cases a using ofMatrix_cases with | store a
  cases b using ofMatrix_cases with | store b
  rw [tensor_ofMatrix, transpose_ofMatrix, transpose_ofMatrix, transpose_ofMatrix, tensor_ofMatrix]
  exact congrArg ofMatrix (transpose_reindex finProdFinEquiv finProdFinEquiv _)

theorem conjTranspose_kron [CommSemiring κ] [StarRing κ] (a : Matrix (Fin p) (Fin q) κ)
    (b : Matrix (Fin r) (Fin s) κ) : (kron a b)ᴴ = kron aᴴ bᴴ := by
  rw [kron, kron, conjTranspose_reindex, conjTranspose_kronecker]

theorem kron_one_one [MulZeroOneClass κ] :
    kron (1 : Matrix (Fin p) (Fin p) κ) (1 : Matrix (Fin q) (Fin q) κ) = 1 := by
  rw [kron, one_kronecker_one, reindex_apply, submatrix_one_equiv]

theorem adjoint_tensor {α : Type u} [CommRing α] (a b : DenseMatrix (Scalar α)) :
    (a.tensor b).adjoint = a.adjoint.tensor b.adjoint := by
  cases a using ofMatrix_cases with | store a
  cases b using ofMatrix_cases with | store b
  rw [tensor_ofMatrix, adjoint_ofMatrix, adjoint_ofMatrix, adjoint_ofMatrix, tensor_ofMatrix,
    conjTranspose_kron]

/-- Identity matrices inside an identity matrix make an identity matrix. -/
theorem identity_tensor [MulZeroOneClass κ] (m n : Nat) [NeZero m] [NeZero n] :
    (do return (← identity (κ := κ) m).tensor (← identity n)) = identity (m * n) := by
  rw [identity_eq_ofMatrix, identity_eq_ofMatrix, identity_eq_ofMatrix]
  exact congrArg Except.ok ((tensor_ofMatrix 1 1).trans (congrArg ofMatrix kron_one_one))

/-- The laws of the tensor product, over exact parts. It is multiplied factor by factor where the
    shapes of the factors fit, it is associative, it is transposed and conjugated factor by factor,
    and identity matrices give identity matrices. -/
theorem tensor_laws {α : Type u} [CommRing α] :
    (∀ a b c d : DenseMatrix (Scalar α), a.cols = c.rows → b.cols = d.rows →
      BothYield ⟨a.rows * b.rows, c.cols * d.cols⟩ ((a.tensor b).multiply (c.tensor d))
        (do return (← a.multiply c).tensor (← b.multiply d))) ∧
    (∀ a b c : DenseMatrix (Scalar α), (a.tensor b).tensor c = a.tensor (b.tensor c)) ∧
    (∀ a b : DenseMatrix (Scalar α),
      (a.tensor b).transpose = a.transpose.tensor b.transpose ∧
      (a.tensor b).adjoint = a.adjoint.tensor b.adjoint) ∧
    ∀ m n : Nat, 1 ≤ m → 1 ≤ n →
      BothYield (κ := Scalar α) ⟨m * n, m * n⟩
        (do return (← identity m).tensor (← identity n)) (identity (m * n)) := by
  refine ⟨?_, tensor_assoc, ?_, ?_⟩
  · intro a b c d left right
    exact tensor_multiply rfl rfl (shape_of_fits left) (shape_of_fits right)
  · intro a b
    exact ⟨transpose_tensor a b, adjoint_tensor a b⟩
  · intro m n some someMore
    have : NeZero m := .of_pos some
    have : NeZero n := .of_pos someMore
    exact ⟨ofMatrix 1, (identity_tensor m n).trans (identity_eq_ofMatrix (m * n)),
      identity_eq_ofMatrix (m * n), rfl⟩

/-- A row beside a column, times a column beside a row: all four shapes differ from their mirror
    images. Identity matrices of two and three make one of six. -/
theorem tensor_laws_row_column :
    let a : DenseMatrix (Scalar ℤ) := ⟨1, 2, #[⟨1, 2⟩, ⟨0, -1⟩], by decide, by decide, rfl⟩
    let b : DenseMatrix (Scalar ℤ) := ⟨3, 1, #[⟨2, 0⟩, ⟨1, 1⟩, ⟨0, 5⟩], by decide, by decide, rfl⟩
    let c : DenseMatrix (Scalar ℤ) := ⟨2, 1, #[⟨0, 1⟩, ⟨-3, 0⟩], by decide, by decide, rfl⟩
    let d : DenseMatrix (Scalar ℤ) := ⟨1, 2, #[⟨1, -1⟩, ⟨4, 0⟩], by decide, by decide, rfl⟩
    a.cols = c.rows ∧ b.cols = d.rows ∧ 1 ≤ 2 ∧ 1 ≤ 3 ∧
      BothYield ⟨3, 2⟩ ((a.tensor b).multiply (c.tensor d))
        (do return (← a.multiply c).tensor (← b.multiply d)) ∧
      BothYield (κ := Scalar ℤ) ⟨6, 6⟩ (do return (← identity 2).tensor (← identity 3))
        (identity 6) := by
  intro a b c d
  obtain ⟨products, -, -, identities⟩ := tensor_laws (α := ℤ)
  exact ⟨rfl, rfl, by decide, by decide, products a b c d rfl rfl,
    identities 2 3 (by decide) (by decide)⟩

end QuantumAssembler.DenseMatrix
