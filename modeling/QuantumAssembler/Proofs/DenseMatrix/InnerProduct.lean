import Mathlib.LinearAlgebra.Matrix.Hadamard
import QuantumAssembler.Proofs.DenseMatrix.OfMatrix
import QuantumAssembler.Proofs.Scalar.Modulus

/-!
Module: QuantumAssembler.Proofs.DenseMatrix.InnerProduct
Purpose: The laws of the inner product over exact parts. It is worked out as the trace of a product;
  for columns this is the sum of the conjugate elements of the left operand times those of the right
  one, and so a Hermitian form: conjugate under exchange, additive on both sides, linear on the right
  and, where the parts are ordered, positive on all columns but zero. For square matrices of more
  than one row nothing is conjugated, and the form is symmetric.
Main exports: DenseMatrix.BothGive, DenseMatrix.IsZero, DenseMatrix.trace_columns,
  DenseMatrix.trace_exchange, DenseMatrix.trace_squares, DenseMatrix.innerProduct_exchange,
  DenseMatrix.innerProduct_add, DenseMatrix.add_innerProduct, DenseMatrix.innerProduct_scale,
  DenseMatrix.scale_innerProduct, DenseMatrix.innerProduct_self_nonneg,
  DenseMatrix.innerProduct_square_comm, DenseMatrix.innerProduct_hermitian_form
-/

namespace QuantumAssembler.DenseMatrix

universe u v

open Matrix

variable {κ : Type u} {α : Type u} {n p q : Nat}

/-- Two calculations succeed with one and the same result. -/
def BothGive {β : Type v} (left right : Except AlgebraFailure β) : Prop :=
  ∃ r, left = .ok r ∧ right = .ok r

/-! ### Zero and sums -/

/-- A matrix is zero if it is the matrix of zeros of its shape. -/
def IsZero [Zero κ] (m : DenseMatrix κ) : Prop :=
  zeros m.rows m.cols = .ok m

theorem zeros_eq_ofMatrix [Zero κ] [NeZero p] [NeZero q] :
    zeros p q = .ok (ofMatrix (0 : Matrix (Fin p) (Fin q) κ)) := by
  have filled : 0 < p ∧ 0 < q ∧ (Array.replicate (p * q) (0 : κ)).size = p * q :=
    ⟨Nat.pos_of_neZero p, Nat.pos_of_neZero q, Array.size_replicate⟩
  refine (dif_pos filled).trans (congrArg Except.ok (eq_ofMatrix rfl rfl fun i j => ?_))
  simp [entry]

theorem isZero_ofMatrix [Zero κ] [NeZero p] [NeZero q] {a : Matrix (Fin p) (Fin q) κ} :
    (ofMatrix a).IsZero ↔ a = 0 := by
  have made : zeros (ofMatrix a).rows (ofMatrix a).cols =
      .ok (ofMatrix (0 : Matrix (Fin p) (Fin q) κ)) := zeros_eq_ofMatrix (p := p) (q := q)
  rw [IsZero, made, Except.ok.injEq, ofMatrix_inj, eq_comm]

theorem not_isZero_of_cell [Zero κ] [NeZero p] [NeZero q] {a : Matrix (Fin p) (Fin q) κ} {i : Fin p}
    {j : Fin q} (cell : a i j ≠ 0) : ¬ (ofMatrix a).IsZero := by
  intro none
  rw [isZero_ofMatrix.mp none] at cell
  exact cell rfl

theorem add_ofMatrix [Add κ] [NeZero p] [NeZero q] (a b : Matrix (Fin p) (Fin q) κ) :
    (ofMatrix a).add (ofMatrix b) = .ok (ofMatrix (a + b)) :=
  zipWith_ofMatrix .add (· + ·) a b

/-! ### Columns, element by element -/

section Elements

variable [CommRing α] (v w : Matrix (Fin p) (Fin 1) (Scalar α))

theorem trace_columns : (vᴴ * w).trace = ∑ i, (v i 0).conjugate * w i 0 := by
  rw [trace_fin_one, mul_apply]
  rfl

/-- Exchanging two columns conjugates the trace of their product. -/
theorem trace_exchange : (vᴴ * w).trace = (wᴴ * v).trace.conjugate :=
  calc (vᴴ * w).trace = (wᴴ * v)ᴴ.trace := by rw [conjTranspose_mul, conjTranspose_conjTranspose]
    _ = (wᴴ * v).trace.conjugate := trace_conjTranspose (wᴴ * v)

/-- The inner product of a column with itself is the sum of the squared moduli of its elements. -/
theorem trace_column_self : (vᴴ * v).trace = .ofReal (∑ i, (v i 0).squaredModulus) := by
  rw [trace_columns]
  simp only [Scalar.conjugate_mul_self]
  ext
  · exact Scalar.re_sum Finset.univ _
  · rw [Scalar.im_sum]
    exact Finset.sum_const_zero

/-- The squared moduli of a column add up to zero for the zero column alone. -/
theorem sum_squaredModulus_eq_zero_iff [LinearOrder α] [IsStrictOrderedRing α] :
    ∑ i, (v i 0).squaredModulus = 0 ↔ v = 0 := by
  rw [Finset.sum_eq_zero_iff_of_nonneg fun i _ => (v i 0).squaredModulus_nonneg]
  constructor
  · intro none
    refine Matrix.ext fun i j => ?_
    rw [Subsingleton.elim j 0]
    exact Scalar.squaredModulus_eq_zero_iff.mp (none i (Finset.mem_univ i))
  · rintro rfl i -
    exact Scalar.squaredModulus_eq_zero_iff.mpr rfl

end Elements

/-! ### The laws of the form on columns -/

section Columns

variable [CommRing α] {u v w : DenseMatrix (Scalar α)}

theorem innerProduct_eq_sum (first : u.shape = ⟨n, 1⟩) (second : v.shape = ⟨n, 1⟩) :
    ∃ x y : Fin n → Scalar α,
      (∀ i : Fin n, u.cell? i 0 = some (x i)) ∧ (∀ i : Fin n, v.cell? i 0 = some (y i)) ∧
        u.innerProduct v = .ok (∑ i, (x i).conjugate * y i) := by
  obtain ⟨_, _, u, rfl⟩ := exists_ofMatrix first
  obtain ⟨_, _, v, rfl⟩ := exists_ofMatrix second
  refine ⟨fun i => u i 0, fun i => v i 0, fun i => cell?_ofMatrix u i 0,
    fun i => cell?_ofMatrix v i 0, ?_⟩
  rw [innerProduct_ofMatrix, trace_columns]

/-- Exchanging the operands conjugates the inner product. -/
theorem innerProduct_exchange (first : u.shape = ⟨n, 1⟩) (second : v.shape = ⟨n, 1⟩) :
    BothGive (u.innerProduct v) (do return (← v.innerProduct u).conjugate) := by
  obtain ⟨_, _, u, rfl⟩ := exists_ofMatrix first
  obtain ⟨_, _, v, rfl⟩ := exists_ofMatrix second
  refine ⟨(uᴴ * v).trace, innerProduct_ofMatrix u v, ?_⟩
  rw [innerProduct_ofMatrix v u, trace_exchange u v]
  rfl

theorem innerProduct_add (first : u.shape = ⟨n, 1⟩) (second : v.shape = ⟨n, 1⟩)
    (third : w.shape = ⟨n, 1⟩) :
    BothGive (do u.innerProduct (← v.add w))
      (do return (← u.innerProduct v) + (← u.innerProduct w)) := by
  obtain ⟨_, _, u, rfl⟩ := exists_ofMatrix first
  obtain ⟨_, _, v, rfl⟩ := exists_ofMatrix second
  obtain ⟨_, _, w, rfl⟩ := exists_ofMatrix third
  refine ⟨(uᴴ * (v + w)).trace, ?_, ?_⟩
  · rw [add_ofMatrix]
    exact innerProduct_ofMatrix u (v + w)
  · rw [innerProduct_ofMatrix, innerProduct_ofMatrix, Matrix.mul_add, trace_add]
    rfl

theorem add_innerProduct (first : u.shape = ⟨n, 1⟩) (second : v.shape = ⟨n, 1⟩)
    (third : w.shape = ⟨n, 1⟩) :
    BothGive (do (← u.add v).innerProduct w)
      (do return (← u.innerProduct w) + (← v.innerProduct w)) := by
  obtain ⟨_, _, u, rfl⟩ := exists_ofMatrix first
  obtain ⟨_, _, v, rfl⟩ := exists_ofMatrix second
  obtain ⟨_, _, w, rfl⟩ := exists_ofMatrix third
  refine ⟨((u + v)ᴴ * w).trace, ?_, ?_⟩
  · rw [add_ofMatrix]
    exact innerProduct_ofMatrix (u + v) w
  · rw [innerProduct_ofMatrix, innerProduct_ofMatrix, conjTranspose_add, Matrix.add_mul, trace_add]
    rfl

theorem innerProduct_scale (first : u.shape = ⟨n, 1⟩) (second : v.shape = ⟨n, 1⟩) (c : Scalar α) :
    BothGive (u.innerProduct (v.scale c)) (do return c * (← u.innerProduct v)) := by
  obtain ⟨_, _, u, rfl⟩ := exists_ofMatrix first
  obtain ⟨_, _, v, rfl⟩ := exists_ofMatrix second
  refine ⟨(uᴴ * (c • v)).trace, ?_, ?_⟩
  · rw [scale_ofMatrix]
    exact innerProduct_ofMatrix u (c • v)
  · rw [innerProduct_ofMatrix, Matrix.mul_smul, trace_smul]
    rfl

/-- A factor on the left comes out conjugated. -/
theorem scale_innerProduct (first : u.shape = ⟨n, 1⟩) (second : v.shape = ⟨n, 1⟩) (c : Scalar α) :
    BothGive ((u.scale c).innerProduct v) (do return c.conjugate * (← u.innerProduct v)) := by
  obtain ⟨_, _, u, rfl⟩ := exists_ofMatrix first
  obtain ⟨_, _, v, rfl⟩ := exists_ofMatrix second
  refine ⟨((c • u)ᴴ * v).trace, ?_, ?_⟩
  · rw [scale_ofMatrix]
    exact innerProduct_ofMatrix (c • u) v
  · rw [innerProduct_ofMatrix, conjTranspose_smul, Matrix.smul_mul, trace_smul]
    rfl

/-- Positivity: a sum of squared moduli has no imaginary part, and vanishes with its summands. -/
theorem innerProduct_self_nonneg [LinearOrder α] [IsStrictOrderedRing α]
    (column : v.shape = ⟨n, 1⟩) :
    ∃ z, v.innerProduct v = .ok z ∧ z.im = 0 ∧ 0 ≤ z.re ∧ (z.re = 0 ↔ v.IsZero) := by
  obtain ⟨_, _, v, rfl⟩ := exists_ofMatrix column
  have nonneg : 0 ≤ ∑ i, (v i 0).squaredModulus :=
    Finset.sum_nonneg fun i _ => (v i 0).squaredModulus_nonneg
  refine ⟨(vᴴ * v).trace, innerProduct_ofMatrix v v, ?_⟩
  rw [trace_column_self, isZero_ofMatrix, ← sum_squaredModulus_eq_zero_iff]
  exact ⟨rfl, nonneg, Iff.rfl⟩

end Columns

/-! ### Square matrices -/

section Squares

variable [CommRing α]

/-- Of square matrices with more than one row neither is conjugated. -/
theorem innerProduct_ofMatrix_square [NeZero p] (wide : p ≠ 1)
    (a b : Matrix (Fin p) (Fin p) (Scalar α)) :
    (ofMatrix a).innerProduct (ofMatrix b) = .ok (aᵀ * b).trace := by
  have noColumn : ¬((ofMatrix a).isColumn && (ofMatrix b).isColumn) = true := by
    intro columns
    exact wide (eq_of_beq (Bool.and_eq_true_iff.mp columns).1)
  have squares : (ofMatrix a).isSquare = true ∧ (ofMatrix a).shape = (ofMatrix b).shape :=
    ⟨beq_self_eq_true p, rfl⟩
  rw [innerProduct, if_neg noColumn, if_pos squares, transpose_ofMatrix, multiply_ofMatrix]
  exact trace_ofMatrix (aᵀ * b)

theorem trace_squares (a b : Matrix (Fin p) (Fin p) (Scalar α)) :
    (aᵀ * b).trace = ∑ i, ∑ j, a i j * b i j := by
  rw [trace_mul_comm, ← sum_hadamard_eq]
  simp only [hadamard_apply, mul_comm]

theorem innerProduct_diagonal (x y : Scalar α) :
    (ofMatrix !![x, 0; 0, y]).innerProduct (ofMatrix !![x, 0; 0, y]) = .ok (x * x + y * y) := by
  rw [innerProduct_ofMatrix_square (by decide), trace_squares]
  simp [Fin.sum_univ_two]

variable {a b : DenseMatrix (Scalar α)}

theorem innerProduct_square_eq_sum (wide : n ≠ 1) (first : a.shape = ⟨n, n⟩)
    (second : b.shape = ⟨n, n⟩) :
    ∃ x y : Fin n → Fin n → Scalar α,
      (∀ i j : Fin n, a.cell? i j = some (x i j)) ∧ (∀ i j : Fin n, b.cell? i j = some (y i j)) ∧
        a.innerProduct b = .ok (∑ i, ∑ j, x i j * y i j) := by
  obtain ⟨_, _, a, rfl⟩ := exists_ofMatrix first
  obtain ⟨_, _, b, rfl⟩ := exists_ofMatrix second
  refine ⟨a, b, cell?_ofMatrix a, cell?_ofMatrix b, ?_⟩
  rw [innerProduct_ofMatrix_square wide, trace_squares]

theorem innerProduct_square_comm (wide : n ≠ 1) (first : a.shape = ⟨n, n⟩)
    (second : b.shape = ⟨n, n⟩) : BothGive (a.innerProduct b) (b.innerProduct a) := by
  obtain ⟨_, _, a, rfl⟩ := exists_ofMatrix first
  obtain ⟨_, _, b, rfl⟩ := exists_ofMatrix second
  refine ⟨(aᵀ * b).trace, innerProduct_ofMatrix_square wide a b, ?_⟩
  rw [innerProduct_ofMatrix_square wide, trace_squares, trace_squares]
  simp only [mul_comm]

end Squares

/-- The inner product is a Hermitian form on columns, over exact ordered parts: it is the sum of the
    conjugate elements on the left times the elements on the right, it is conjugate under exchange,
    additive on both sides, linear on the right and conjugate linear on the left, and of a column
    with itself it is a real number, not negative, and zero for the zero column alone. On square
    matrices of two rows or more it is the sum of the products of cells, and symmetric. -/
theorem innerProduct_hermitian_form {α : Type u} [CommRing α] [LinearOrder α]
    [IsStrictOrderedRing α] :
    (∀ (n : Nat) (u v w : DenseMatrix (Scalar α)) (c : Scalar α),
      u.shape = ⟨n, 1⟩ → v.shape = ⟨n, 1⟩ → w.shape = ⟨n, 1⟩ →
        (∃ x y : Fin n → Scalar α,
          (∀ i : Fin n, u.cell? i 0 = some (x i)) ∧ (∀ i : Fin n, v.cell? i 0 = some (y i)) ∧
            u.innerProduct v = .ok (∑ i, (x i).conjugate * y i)) ∧
        BothGive (u.innerProduct v) (do return (← v.innerProduct u).conjugate) ∧
        BothGive (do u.innerProduct (← v.add w))
          (do return (← u.innerProduct v) + (← u.innerProduct w)) ∧
        BothGive (do (← u.add v).innerProduct w)
          (do return (← u.innerProduct w) + (← v.innerProduct w)) ∧
        BothGive (u.innerProduct (v.scale c)) (do return c * (← u.innerProduct v)) ∧
        BothGive ((u.scale c).innerProduct v) (do return c.conjugate * (← u.innerProduct v)) ∧
        ∃ z, v.innerProduct v = .ok z ∧ z.im = 0 ∧ 0 ≤ z.re ∧ (z.re = 0 ↔ v.IsZero)) ∧
    ∀ (n : Nat) (a b : DenseMatrix (Scalar α)), 2 ≤ n → a.shape = ⟨n, n⟩ → b.shape = ⟨n, n⟩ →
      (∃ x y : Fin n → Fin n → Scalar α,
        (∀ i j : Fin n, a.cell? i j = some (x i j)) ∧
          (∀ i j : Fin n, b.cell? i j = some (y i j)) ∧
            a.innerProduct b = .ok (∑ i, ∑ j, x i j * y i j)) ∧
      BothGive (a.innerProduct b) (b.innerProduct a) := by
  constructor
  · intro n u v w c first second third
    exact ⟨innerProduct_eq_sum first second, innerProduct_exchange first second,
      innerProduct_add first second third, add_innerProduct first second third,
      innerProduct_scale first second c, scale_innerProduct first second c,
      innerProduct_self_nonneg second⟩
  · intro n a b many first second
    have wide : n ≠ 1 := by omega
    exact ⟨innerProduct_square_eq_sum wide first second,
      innerProduct_square_comm wide first second⟩

/-- Three columns of complex integers and two square matrices. The form on the columns is not
    symmetric, and the one on the square matrices does not conjugate. -/
theorem innerProduct_hermitian_form_integers :
    let u : DenseMatrix (Scalar ℤ) := ⟨2, 1, #[⟨1, 2⟩, ⟨0, -1⟩], by decide, by decide, rfl⟩
    let v : DenseMatrix (Scalar ℤ) := ⟨2, 1, #[⟨3, 0⟩, ⟨1, 1⟩], by decide, by decide, rfl⟩
    let w : DenseMatrix (Scalar ℤ) := ⟨2, 1, #[⟨0, 0⟩, ⟨0, 5⟩], by decide, by decide, rfl⟩
    let a : DenseMatrix (Scalar ℤ) :=
      ⟨2, 2, #[⟨0, 1⟩, ⟨3, 0⟩, ⟨-2, 1⟩, ⟨1, 1⟩], by decide, by decide, rfl⟩
    let b : DenseMatrix (Scalar ℤ) :=
      ⟨2, 2, #[⟨7, 0⟩, ⟨0, -2⟩, ⟨1, 4⟩, ⟨0, 0⟩], by decide, by decide, rfl⟩
    u.shape = ⟨2, 1⟩ ∧ v.shape = ⟨2, 1⟩ ∧ w.shape = ⟨2, 1⟩ ∧ 2 ≤ 2 ∧ a.shape = ⟨2, 2⟩ ∧
      b.shape = ⟨2, 2⟩ ∧
      BothGive (u.innerProduct v) (do return (← v.innerProduct u).conjugate) ∧
      BothGive (do u.innerProduct (← v.add w))
        (do return (← u.innerProduct v) + (← u.innerProduct w)) ∧
      BothGive ((u.scale ⟨0, 1⟩).innerProduct v)
        (do return (Scalar.conjugate ⟨0, 1⟩) * (← u.innerProduct v)) ∧
      BothGive (a.innerProduct b) (b.innerProduct a) := by
  intro u v w a b
  obtain ⟨columns, squares⟩ := innerProduct_hermitian_form (α := ℤ)
  obtain ⟨-, exchange, right, -, -, left, -⟩ := columns 2 u v w ⟨0, 1⟩ rfl rfl rfl
  obtain ⟨-, symmetric⟩ := squares 2 a b (by decide) rfl rfl
  exact ⟨rfl, rfl, rfl, by decide, rfl, rfl, exchange, right, left, symmetric⟩

end QuantumAssembler.DenseMatrix
