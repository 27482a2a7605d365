import Mathlib.Algebra.BigOperators.Fin
import Mathlib.LinearAlgebra.Matrix.ConjTranspose
import Mathlib.LinearAlgebra.Matrix.Trace
import QuantumAssembler.DenseMatrix.Metric
import QuantumAssembler.Proofs.DenseMatrix.Storage
import QuantumAssembler.Proofs.Scalar.Ring

/-!
Module: QuantumAssembler.Proofs.DenseMatrix.OfMatrix
Purpose: Stored matrices and the matrices of algebra. A matrix of algebra is a function of a row and
  a column; `ofMatrix` stores it. Every stored matrix comes about in this way, and each operation on
  stored matrices is the one of algebra, as long as cells are added and multiplied exactly. So what
  algebra knows about matrices holds for the stored ones.
Main exports: DenseMatrix.BothYield, DenseMatrix.ofMatrix, DenseMatrix.exists_ofMatrix,
  DenseMatrix.exists_of_square, DenseMatrix.ofMatrix_cases, DenseMatrix.ofMatrix_inj,
  DenseMatrix.sumFn_eq_sum, DenseMatrix.multiply_ofMatrix, DenseMatrix.adjoint_ofMatrix,
  DenseMatrix.innerProduct_ofMatrix
-/

namespace QuantumAssembler.DenseMatrix

universe u v

open Matrix

variable {κ : Type u} {μ : Type v} {p q r : Nat} [NeZero p] [NeZero q] [NeZero r]

/-- If equality of cells is the test for them, equality of matrices is the test for matrices. -/
instance [BEq κ] [LawfulBEq κ] : LawfulBEq (DenseMatrix κ) where
  eq_of_beq {m n} same := by
    obtain ⟨shapes, cells⟩ := Bool.and_eq_true_iff.mp same
    obtain ⟨rows, cols⟩ := Bool.and_eq_true_iff.mp shapes
    obtain ⟨_, _, _, _, _, _⟩ := m
    obtain ⟨_, _, _, _, _, _⟩ := n
    cases eq_of_beq rows
    cases eq_of_beq cols
    cases eq_of_beq cells
    rfl
  rfl {m} := by
    change (m.rows == m.rows && m.cols == m.cols && m.cells == m.cells) = true
    simp only [BEq.rfl, Bool.and_self]

/-- Two calculations succeed with one and the same matrix, which has the given shape. -/
def BothYield (s : Shape) (left right : Except AlgebraFailure (DenseMatrix κ)) : Prop :=
  ∃ m, left = .ok m ∧ right = .ok m ∧ m.shape = s

/-- Stores a matrix that has rows and columns. -/
def ofMatrix (a : Matrix (Fin p) (Fin q) κ) : DenseMatrix κ :=
  ofFn p q (Nat.pos_of_neZero p) (Nat.pos_of_neZero q) a

theorem entry_ofMatrix (a : Matrix (Fin p) (Fin q) κ) (i : Fin p) (j : Fin q) :
    (ofMatrix a).entry i j = a i j :=
  entry_ofFn a i j

theorem cell?_ofMatrix (a : Matrix (Fin p) (Fin q) κ) (i : Fin p) (j : Fin q) :
    (ofMatrix a).cell? i j = some (a i j) :=
  (cell?_ofFn a i j).trans (dif_pos ⟨i.isLt, j.isLt⟩)

/-- Different matrices are stored differently. -/
theorem ofMatrix_inj {a b : Matrix (Fin p) (Fin q) κ} : ofMatrix a = ofMatrix b ↔ a = b := by
  refine ⟨fun same => Matrix.ext fun i j => Option.some.inj ?_, congrArg ofMatrix⟩
  rw [← cell?_ofMatrix a, ← cell?_ofMatrix b, same]

/-- What a matrix can be multiplied by is as high as this is wide. -/
theorem shape_of_fits {m n : DenseMatrix κ} (fits : m.cols = n.rows) :
    n.shape = ⟨m.cols, n.cols⟩ :=
  congrArg (Shape.mk · n.cols) fits.symm

/-- A matrix of a shape is a matrix of algebra, stored. -/
theorem exists_ofMatrix {m : DenseMatrix κ} {p q : Nat} (shape : m.shape = ⟨p, q⟩) :
    ∃ (_ : NeZero p) (_ : NeZero q) (a : Matrix (Fin p) (Fin q) κ), m = ofMatrix a := by
  obtain ⟨rows, cols⟩ := Shape.mk.inj shape
  subst rows cols
  exact ⟨⟨m.rows_pos.ne'⟩, ⟨m.cols_pos.ne'⟩, m.entry, m.ofFn_entry.symm⟩

/-- A square matrix is a square matrix of algebra, stored. -/
theorem exists_of_square {m : DenseMatrix κ} (square : m.rows = m.cols) :
    ∃ (p : Nat) (_ : NeZero p) (a : Matrix (Fin p) (Fin p) κ), m = ofMatrix a := by
  obtain ⟨_, _, a, stored⟩ := exists_ofMatrix (congrArg (Shape.mk · m.cols) square)
  exact ⟨m.cols, inferInstance, a, stored⟩

/-- What holds for the matrices that are stored, holds for every matrix. -/
@[elab_as_elim]
theorem ofMatrix_cases {motive : DenseMatrix κ → Prop}
    (store : ∀ {p q : Nat} [NeZero p] [NeZero q] (a : Matrix (Fin p) (Fin q) κ),
      motive (ofMatrix a)) (m : DenseMatrix κ) : motive m := by
  obtain ⟨_, _, a, stored⟩ := exists_ofMatrix (show m.shape = ⟨m.rows, m.cols⟩ from rfl)
  rw [stored]
  exact store a

/-- A stored matrix is known by its shape and its entries. -/
theorem eq_ofMatrix {m : DenseMatrix κ} {a : Matrix (Fin p) (Fin q) κ} (rows : m.rows = p)
    (cols : m.cols = q)
    (entries : ∀ i j, m.entry (i.cast rows.symm) (j.cast cols.symm) = a i j) :
    m = ofMatrix a := by
  subst rows cols
  exact m.ofFn_entry.symm.trans (congrArg (ofFn m.rows m.cols _ _) (funext₂ entries))

/-- Matrices of one shape with the same cells are the same. -/
theorem eq_of_cell? {m n : DenseMatrix κ} (shape : m.shape = n.shape)
    (cells : ∀ i j, m.cell? i j = n.cell? i j) : m = n := by
  cases m using ofMatrix_cases with | @store p q _ _ a
  obtain ⟨_, _, b, rfl⟩ := exists_ofMatrix (p := p) (q := q) shape.symm
  refine congrArg ofMatrix (Matrix.ext fun i j => Option.some.inj ?_)
  rw [← cell?_ofMatrix a, ← cell?_ofMatrix b, cells]

/-! ### Operations on cells -/

theorem transpose_ofMatrix (a : Matrix (Fin p) (Fin q) κ) :
    (ofMatrix a).transpose = ofMatrix aᵀ :=
  eq_ofMatrix rfl rfl fun j i => (entry_transpose (ofMatrix a) j i).trans (entry_ofMatrix a i j)

theorem map_ofMatrix (f : κ → μ) (a : Matrix (Fin p) (Fin q) κ) :
    (ofMatrix a).map f = ofMatrix (a.map f) :=
  eq_ofMatrix rfl rfl fun i j =>
    (entry_map f (ofMatrix a) i j).trans (congrArg f (entry_ofMatrix a i j))

/-- Matrices of one shape are combined cell by cell. -/
theorem zipWith_ofMatrix (operation : Operation) (f : κ → κ → κ) (a b : Matrix (Fin p) (Fin q) κ) :
    zipWith operation f (ofMatrix a) (ofMatrix b) =
      .ok (ofMatrix (of fun i j => f (a i j) (b i j))) := by
  refine (dif_pos ⟨rfl, rfl⟩).trans (congrArg Except.ok (eq_ofMatrix rfl rfl fun i j => ?_))
  refine (entry_ofFn _ i j).trans ?_
  rw [of_apply, ← entry_ofMatrix a i j, ← entry_ofMatrix b i j]
  rfl

theorem scale_ofMatrix [Mul κ] (a : Matrix (Fin p) (Fin q) κ) (factor : κ) :
    (ofMatrix a).scale factor = ofMatrix (factor • a) :=
  map_ofMatrix (factor * ·) a

/-! ### Sums of cells -/

/-- A sum from first to last is the sum in any order, if cells are added exactly. -/
theorem sumFn_eq_sum [AddCommMonoid κ] (n : Nat) (f : Fin n → κ) : sumFn n f = ∑ k, f k := by
  induction n with
  | zero => rfl
  | succ n ih =>
      rw [Fin.sum_univ_castSucc, ← ih, sumFn, Fin.foldl_succ_last]
      rfl

/-- A product has the sums of rows and columns for entries, whatever the arithmetic of cells is. -/
theorem multiply_ofMatrix_sumFn [Zero κ] [Add κ] [Mul κ] (a : Matrix (Fin p) (Fin q) κ)
    (b : Matrix (Fin q) (Fin r) κ) :
    (ofMatrix a).multiply (ofMatrix b) =
      .ok (ofMatrix (of fun i j => sumFn q fun k => a i k * b k j)) := by
  refine (dif_pos rfl).trans (congrArg Except.ok (eq_ofMatrix rfl rfl fun i j => ?_))
  refine (entry_product (ofMatrix a) (ofMatrix b) rfl i j).trans ?_
  exact congrArg (sumFn q) (funext fun k =>
    congrArg₂ (· * ·) (entry_ofMatrix a i k) (entry_ofMatrix b k j))

theorem multiply_ofMatrix [NonUnitalNonAssocSemiring κ] (a : Matrix (Fin p) (Fin q) κ)
    (b : Matrix (Fin q) (Fin r) κ) :
    (ofMatrix a).multiply (ofMatrix b) = .ok (ofMatrix (a * b)) := by
  rw [multiply_ofMatrix_sumFn]
  refine congrArg (Except.ok ∘ ofMatrix) (Matrix.ext fun i j => ?_)
  rw [of_apply, sumFn_eq_sum, mul_apply]

theorem trace_ofMatrix [AddCommMonoid κ] (a : Matrix (Fin p) (Fin p) κ) :
    (ofMatrix a).trace = .ok a.trace := by
  refine (dif_pos rfl).trans (congrArg Except.ok ?_)
  rw [sumFn_eq_sum]
  exact Finset.sum_congr rfl fun i _ => entry_ofMatrix a i i

theorem diagonal_eq_ofMatrix [Zero κ] [One κ] (size : Nat) [NeZero size] (some : 0 < size) :
    diagonal size some = ofMatrix (1 : Matrix (Fin size) (Fin size) κ) :=
  eq_ofMatrix rfl rfl fun i j => entry_ofFn _ i j

theorem identity_eq_ofMatrix [Zero κ] [One κ] (size : Nat) [NeZero size] :
    identity size = .ok (ofMatrix (1 : Matrix (Fin size) (Fin size) κ)) :=
  (dif_pos (Nat.pos_of_neZero size)).trans (congrArg Except.ok (diagonal_eq_ofMatrix size _))

theorem identityLike?_ofMatrix [Zero κ] [One κ] (a : Matrix (Fin p) (Fin p) κ) :
    (ofMatrix a).identityLike? = some (ofMatrix (1 : Matrix (Fin p) (Fin p) κ)) :=
  (if_pos (beq_iff_eq.mpr rfl)).trans (congrArg some (diagonal_eq_ofMatrix p _))

/-! ### Matrices of scalars -/

section Scalars

variable {α : Type u}

theorem adjoint_ofMatrix_map [Neg α] (a : Matrix (Fin p) (Fin q) (Scalar α)) :
    (ofMatrix a).adjoint = ofMatrix (aᵀ.map Scalar.conjugate) := by
  rw [adjoint, conjugate, map_ofMatrix, transpose_ofMatrix, transpose_map]

variable [CommRing α]

theorem adjoint_ofMatrix (a : Matrix (Fin p) (Fin q) (Scalar α)) :
    (ofMatrix a).adjoint = ofMatrix aᴴ :=
  adjoint_ofMatrix_map a

/-- The inner product of two columns is the only cell of a product. -/
theorem innerProduct_ofMatrix (v w : Matrix (Fin p) (Fin 1) (Scalar α)) :
    (ofMatrix v).innerProduct (ofMatrix w) = .ok (vᴴ * w).trace := by
  have columns : ((ofMatrix v).isColumn && (ofMatrix w).isColumn) = true := rfl
  have rows : (ofMatrix v).rows = (ofMatrix w).rows := rfl
  rw [innerProduct, if_pos columns, if_pos rows, adjoint_ofMatrix, multiply_ofMatrix]
  exact trace_ofMatrix (vᴴ * w)

end Scalars

end QuantumAssembler.DenseMatrix
