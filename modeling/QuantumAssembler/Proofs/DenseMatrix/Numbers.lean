import Mathlib.Algebra.Order.BigOperators.Group.Finset
import Mathlib.Tactic.Linarith
import QuantumAssembler.Proofs.DenseMatrix.InnerProduct
import QuantumAssembler.Proofs.DenseMatrix.Shape
import QuantumAssembler.Proofs.Scalar.PartialReal

/-!
Module: QuantumAssembler.Proofs.DenseMatrix.Numbers
Purpose: Matrices of real numbers inside arithmetic that may be undefined. A function on cells that
  keeps zero, sums and products can be applied before or after products and traces; so the inner
  product of matrices of numbers is worked out in the numbers. The norm is the root of a number, and
  defined unless this is negative. How the squared norm compares with the sum of all squared moduli
  is settled by the shape: for columns they are equal, for square matrices the squared norm falls
  short by the imaginary parts.
Main exports: DenseMatrix.Carries, DenseMatrix.ofNumbers, DenseMatrix.innerProduct_ofNumbers,
  DenseMatrix.norm_ofNumbers, DenseMatrix.mass, DenseMatrix.innerProduct_self_column,
  DenseMatrix.norm_column, DenseMatrix.imaginaryMass, DenseMatrix.innerProduct_self_square,
  DenseMatrix.re_innerProduct_self_le_mass
-/

namespace QuantumAssembler.DenseMatrix

universe u v

open Matrix

/-! ### Carrying arithmetic over -/

section Carrying

variable {κ : Type u} {μ : Type v} [Zero κ] [Add κ] [Mul κ] [Zero μ] [Add μ] [Mul μ]

/-- A function on cells carries arithmetic over if zero, sums and products go through it. -/
structure Carries (g : κ → μ) : Prop where
  zero : g 0 = 0
  add : ∀ x y, g (x + y) = g x + g y
  mul : ∀ x y, g (x * y) = g x * g y

variable {g : κ → μ}

theorem Carries.sumFn (carries : Carries g) (n : Nat) (f : Fin n → κ) :
    g (sumFn n f) = DenseMatrix.sumFn n fun k => g (f k) := by
  induction n with
  | zero => exact carries.zero
  | succ n ih =>
      rw [DenseMatrix.sumFn, DenseMatrix.sumFn, Fin.foldl_succ_last, Fin.foldl_succ_last, carries.add]
      exact congrArg (· + g (f (Fin.last n))) (ih fun k => f k.castSucc)

theorem Carries.product (carries : Carries g) (a b : DenseMatrix κ) (fits : a.cols = b.rows) :
    (a.map g).product (b.map g) fits = (a.product b fits).map g := by
  have summand (i : Fin a.rows) (j : Fin b.cols) (k : Fin a.cols) :
      (a.map g).entry i k * (b.map g).entry (k.cast fits) j =
        g (a.entry i k * b.entry (k.cast fits) j) :=
    (congrArg₂ (· * ·) (entry_map g a i k) (entry_map g b (k.cast fits) j)).trans
      (carries.mul _ _).symm
  rw [← ofFn_entry ((a.product b fits).map g)]
  refine congrArg (ofFn a.rows b.cols a.rows_pos b.cols_pos) (funext₂ fun i j => ?_)
  calc DenseMatrix.sumFn a.cols (fun k => (a.map g).entry i k * (b.map g).entry (k.cast fits) j)
      = DenseMatrix.sumFn a.cols (fun k => g (a.entry i k * b.entry (k.cast fits) j)) :=
        congrArg (DenseMatrix.sumFn a.cols) (funext (summand i j))
    _ = g (DenseMatrix.sumFn a.cols fun k => a.entry i k * b.entry (k.cast fits) j) :=
        (carries.sumFn a.cols _).symm
    _ = g ((a.product b fits).entry i j) := congrArg g (entry_product a b fits i j).symm
    _ = ((a.product b fits).map g).entry i j := (entry_map g (a.product b fits) i j).symm

theorem Carries.multiply (carries : Carries g) (a b : DenseMatrix κ) :
    (a.map g).multiply (b.map g) = (a.multiply b).map (DenseMatrix.map g) := by
  by_cases fits : a.cols = b.rows
  · rw [DenseMatrix.multiply, DenseMatrix.multiply, dif_pos fits,
      dif_pos (show (a.map g).cols = (b.map g).rows from fits), carries.product]
    rfl
  · rw [DenseMatrix.multiply, DenseMatrix.multiply, dif_neg fits,
      dif_neg (show (a.map g).cols ≠ (b.map g).rows from fits)]
    rfl

theorem Carries.trace (carries : Carries g) (m : DenseMatrix κ) :
    (m.map g).trace = m.trace.map g := by
  by_cases square : m.rows = m.cols
  · rw [DenseMatrix.trace, DenseMatrix.trace, dif_pos square,
      dif_pos (show (m.map g).rows = (m.map g).cols from square), Except.map, carries.sumFn]
    simp
  · rw [DenseMatrix.trace, DenseMatrix.trace, dif_neg square,
      dif_neg (show (m.map g).rows ≠ (m.map g).cols from square)]
    rfl

end Carrying

/-! ### Matrices of numbers -/

/-- A matrix all of whose cells have numbers for parts. -/
def ofNumbers (m : DenseMatrix (Scalar ℝ)) : DenseMatrix (Scalar PartialReal) :=
  m.map Scalar.ofNumbers

theorem carries_ofNumbers : Carries Scalar.ofNumbers :=
  ⟨rfl, fun _ _ => rfl, fun _ _ => rfl⟩

theorem adjoint_ofNumbers (m : DenseMatrix (Scalar ℝ)) :
    m.ofNumbers.adjoint = m.adjoint.ofNumbers := by
  cases m using ofMatrix_cases with | store a
  rw [ofNumbers, ofNumbers, map_ofMatrix, adjoint_ofMatrix_map, adjoint_ofMatrix_map, map_ofMatrix]
  rfl

theorem transpose_ofNumbers (m : DenseMatrix (Scalar ℝ)) :
    m.ofNumbers.transpose = m.transpose.ofNumbers := by
  cases m using ofMatrix_cases with | store a
  rw [ofNumbers, ofNumbers, map_ofMatrix, transpose_ofMatrix, transpose_ofMatrix, map_ofMatrix]
  rfl

theorem shape_scale (m : DenseMatrix (Scalar ℝ)) (c : Scalar ℝ) : (m.scale c).shape = m.shape := rfl

theorem scale_ofNumbers (m : DenseMatrix (Scalar ℝ)) (c : Scalar ℝ) :
    m.ofNumbers.scale (.ofNumbers c) = (m.scale c).ofNumbers := by
  cases m using ofMatrix_cases with | store a
  rw [ofNumbers, ofNumbers, map_ofMatrix, scale_ofMatrix, scale_ofMatrix, map_ofMatrix]
  rfl

theorem multiply_ofNumbers_trace (a b : DenseMatrix (Scalar ℝ)) :
    (a.ofNumbers.multiply b.ofNumbers >>= DenseMatrix.trace) =
      (a.multiply b >>= DenseMatrix.trace).map Scalar.ofNumbers := by
  rw [ofNumbers, ofNumbers, carries_ofNumbers.multiply]
  cases a.multiply b with
  | error failure => rfl
  | ok m => exact carries_ofNumbers.trace m

/-- The inner product of matrices of numbers is worked out in the numbers. -/
theorem innerProduct_ofNumbers (v w : DenseMatrix (Scalar ℝ)) :
    v.ofNumbers.innerProduct w.ofNumbers = (v.innerProduct w).map Scalar.ofNumbers := by
  have columns : (v.ofNumbers.isColumn && w.ofNumbers.isColumn) = (v.isColumn && w.isColumn) := rfl
  have squares : (v.ofNumbers.isSquare = true ∧ v.ofNumbers.shape = w.ofNumbers.shape) =
      (v.isSquare = true ∧ v.shape = w.shape) := rfl
  have rows : (v.ofNumbers.rows = w.ofNumbers.rows) = (v.rows = w.rows) := rfl
  simp only [innerProduct, columns, squares, rows, adjoint_ofNumbers, transpose_ofNumbers]
  split
  · split
    · exact multiply_ofNumbers_trace v.adjoint w
    · rfl
  · split
    · exact multiply_ofNumbers_trace v.transpose w
    · rfl

theorem norm_ofNumbers (m : DenseMatrix (Scalar ℝ)) :
    m.ofNumbers.norm = (m.innerProduct m).map fun z => SquareRoot.sqrt (.number z.re) := by
  rw [norm, innerProduct_ofNumbers]
  cases m.innerProduct m with
  | error failure => rfl
  | ok z => rfl

/-! ### The sum of all squared moduli -/

section Mass

variable {n p q : Nat}

/-- The sum of the squared moduli of all cells. -/
def mass (m : DenseMatrix (Scalar ℝ)) : ℝ :=
  ∑ i, ∑ j, (m.entry i j).squaredModulus

theorem mass_ofMatrix [NeZero p] [NeZero q] (a : Matrix (Fin p) (Fin q) (Scalar ℝ)) :
    (ofMatrix a).mass = ∑ i, ∑ j, (a i j).squaredModulus :=
  Finset.sum_congr rfl fun i _ => Finset.sum_congr rfl fun j _ =>
    congrArg Scalar.squaredModulus (entry_ofMatrix a i j)

theorem mass_nonneg (m : DenseMatrix (Scalar ℝ)) : 0 ≤ m.mass :=
  Finset.sum_nonneg fun i _ => Finset.sum_nonneg fun j _ => (m.entry i j).squaredModulus_nonneg

theorem mass_scale (m : DenseMatrix (Scalar ℝ)) (c : Scalar ℝ) :
    (m.scale c).mass = c.squaredModulus * m.mass := by
  cases m using ofMatrix_cases with | store a
  rw [scale_ofMatrix, mass_ofMatrix, mass_ofMatrix]
  simp only [Matrix.smul_apply, smul_eq_mul, Scalar.squaredModulus_mul, Finset.mul_sum]

theorem mass_ofMatrix_column [NeZero n] (v : Matrix (Fin n) (Fin 1) (Scalar ℝ)) :
    (ofMatrix v).mass = ∑ i, (v i 0).squaredModulus := by
  rw [mass_ofMatrix]
  simp only [Fin.sum_univ_one]

theorem mass_eq_zero_iff {v : DenseMatrix (Scalar ℝ)} (column : v.shape = ⟨n, 1⟩) :
    v.mass = 0 ↔ v.IsZero := by
  obtain ⟨_, _, v, rfl⟩ := exists_ofMatrix column
  rw [mass_ofMatrix_column, sum_squaredModulus_eq_zero_iff, isZero_ofMatrix]

/-- The squared norm of a column is the sum of all squared moduli. -/
theorem innerProduct_self_column {v : DenseMatrix (Scalar ℝ)} (column : v.shape = ⟨n, 1⟩) :
    v.innerProduct v = .ok (.ofReal v.mass) := by
  obtain ⟨_, _, v, rfl⟩ := exists_ofMatrix column
  rw [innerProduct_ofMatrix, trace_column_self, mass_ofMatrix_column]

/-- A column has a norm, whatever its elements are. -/
theorem norm_column {v : DenseMatrix (Scalar ℝ)} (column : v.shape = ⟨n, 1⟩) :
    v.ofNumbers.norm = .ok (.number √v.mass) := by
  rw [norm_ofNumbers, innerProduct_self_column column]
  exact congrArg Except.ok (PartialReal.sqrt_of_nonneg v.mass_nonneg)

/-- The sum of the squares of all imaginary parts. -/
def imaginaryMass (m : DenseMatrix (Scalar ℝ)) : ℝ :=
  ∑ i, ∑ j, (m.entry i j).im * (m.entry i j).im

theorem imaginaryMass_ofMatrix [NeZero p] [NeZero q] (a : Matrix (Fin p) (Fin q) (Scalar ℝ)) :
    (ofMatrix a).imaginaryMass = ∑ i, ∑ j, (a i j).im * (a i j).im :=
  Finset.sum_congr rfl fun i _ => Finset.sum_congr rfl fun j _ =>
    congrArg (fun z : Scalar ℝ => z.im * z.im) (entry_ofMatrix a i j)

theorem imaginaryMass_nonneg (m : DenseMatrix (Scalar ℝ)) : 0 ≤ m.imaginaryMass :=
  Finset.sum_nonneg fun i _ => Finset.sum_nonneg fun j _ => mul_self_nonneg (m.entry i j).im

theorem imaginaryMass_eq_zero_iff {m : DenseMatrix (Scalar ℝ)} :
    m.imaginaryMass = 0 ↔ ∀ i j, (m.entry i j).im = 0 := by
  have squares (i : Fin m.rows) (j : Fin m.cols) : 0 ≤ (m.entry i j).im * (m.entry i j).im :=
    mul_self_nonneg (m.entry i j).im
  have rows (i : Fin m.rows) : 0 ≤ ∑ j, (m.entry i j).im * (m.entry i j).im :=
    Finset.sum_nonneg fun j _ => squares i j
  simp [imaginaryMass, Finset.sum_eq_zero_iff_of_nonneg, rows, squares]

/-- The squared norm of a square matrix of more than one row lacks the imaginary parts twice. -/
theorem innerProduct_self_square {m : DenseMatrix (Scalar ℝ)} (wide : n ≠ 1)
    (square : m.shape = ⟨n, n⟩) :
    ∃ z, m.innerProduct m = .ok z ∧ z.re = m.mass - 2 * m.imaginaryMass := by
  obtain ⟨_, _, a, rfl⟩ := exists_ofMatrix square
  refine ⟨(aᵀ * a).trace, innerProduct_ofMatrix_square wide a a, ?_⟩
  rw [trace_squares, mass_ofMatrix, imaginaryMass_ofMatrix]
  simp only [Scalar.re_sum, Scalar.re_mul_self, Finset.sum_sub_distrib, Finset.mul_sum]

/-- What has an inner product with itself and is no column is square. -/
theorem shape_of_innerProduct_self {m : DenseMatrix (Scalar ℝ)} {z : Scalar ℝ}
    (product : m.innerProduct m = .ok z) (wide : m.cols ≠ 1) : m.shape = ⟨m.cols, m.cols⟩ := by
  obtain ⟨⟨one, -⟩ | ⟨square, -⟩, -⟩ | ⟨-, failed⟩ := m.innerProduct_cases m
  · exact absurd one wide
  · exact congrArg (Shape.mk · m.cols) square
  · cases product.symm.trans failed

/-- The squared norm is at most the sum of all squared moduli. They are equal for columns and for
    matrices without imaginary parts, and for no others. -/
theorem re_innerProduct_self_le_mass {m : DenseMatrix (Scalar ℝ)} {z : Scalar ℝ}
    (product : m.innerProduct m = .ok z) :
    z.re ≤ m.mass ∧ (m.mass = z.re ↔ m.cols = 1 ∨ ∀ i j, (m.entry i j).im = 0) := by
  by_cases column : m.cols = 1
  · have whole : m.innerProduct m = .ok (.ofReal m.mass) :=
      innerProduct_self_column (congrArg (Shape.mk m.rows) column)
    cases product.symm.trans whole
    exact ⟨le_rfl, iff_of_true rfl (.inl column)⟩
  · obtain ⟨w, whole, lack⟩ :=
      innerProduct_self_square column (shape_of_innerProduct_self product column)
    cases product.symm.trans whole
    have nonneg := m.imaginaryMass_nonneg
    rw [lack, or_iff_right column, ← imaginaryMass_eq_zero_iff]
    constructor
    · linarith
    · constructor <;> intro equal <;> linarith

end Mass

end QuantumAssembler.DenseMatrix
