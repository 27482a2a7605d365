import Mathlib.LinearAlgebra.Matrix.Hermitian
import QuantumAssembler.Proofs.DenseMatrix.InnerProduct
import QuantumAssembler.Proofs.DenseMatrix.Kronecker
import QuantumAssembler.Proofs.Measurement.Unitary

/-!
Module: QuantumAssembler.Proofs.DenseMatrix.Hermitian
Purpose: Hermitian and unitary matrices over exact parts. Both tests compare a matrix with what is
  calculated from it. What passes the one is a Hermitian matrix of algebra, and what passes the
  other a member of the unitary group; the adjoint of such a matrix is its inverse on both sides,
  although the test looks at one side only. So both kinds are closed under the operations: unitary
  matrices under adjoints, products and tensor products, Hermitian ones under sums and tensor
  products, and a matrix times its own adjoint is Hermitian.
Main exports: DenseMatrix.isHermitian_iff, DenseMatrix.isHermitian_ofMatrix,
  DenseMatrix.exists_of_isUnitary, DenseMatrix.isUnitary_iff, DenseMatrix.isUnitary_adjoint,
  DenseMatrix.isUnitary_tensor, DenseMatrix.isUnitary_multiply, DenseMatrix.isHermitian_tensor,
  DenseMatrix.isHermitian_add, DenseMatrix.isHermitian_multiply_adjoint,
  DenseMatrix.unitary_hermitian_closed
-/

namespace QuantumAssembler.DenseMatrix

universe u

open Matrix

variable {α : Type u} {p q : Nat}

/-! ### What the tests tell -/

/-- A matrix passes the test for Hermitian matrices if it is square and its own adjoint. -/
theorem isHermitian_iff [Neg α] [BEq α] [LawfulBEq α] {m : DenseMatrix (Scalar α)} :
    m.isHermitian = true ↔ m.rows = m.cols ∧ m.adjoint = m := by
  rw [isHermitian, Bool.and_eq_true, isSquare, beq_iff_eq, beq_iff_eq, eq_comm (a := m)]

/-- Only square matrices have an identity matrix to be compared with. -/
theorem rows_eq_cols_of_isUnitary [Zero α] [One α] [Add α] [Neg α] [Sub α] [Mul α] [BEq α]
    {m : DenseMatrix (Scalar α)} (unitary : m.isUnitary = true) : m.rows = m.cols := by
  by_contra uneven
  have nothing : m.identityLike? = none := if_neg fun square => uneven (eq_of_beq square)
  rw [isUnitary, nothing] at unitary
  cases unitary

theorem multiply_eq_identity_iff {κ : Type u} [NonAssocSemiring κ] [NeZero p]
    {a b : Matrix (Fin p) (Fin p) κ} :
    (ofMatrix a).multiply (ofMatrix b) = identity p ↔ a * b = 1 := by
  rw [multiply_ofMatrix, identity_eq_ofMatrix, Except.ok.injEq, ofMatrix_inj]

variable [CommRing α] [BEq α] [LawfulBEq α]

theorem isHermitian_ofMatrix [NeZero p] (a : Matrix (Fin p) (Fin p) (Scalar α)) :
    (ofMatrix a).isHermitian = true ↔ a.IsHermitian := by
  rw [isHermitian_iff, adjoint_ofMatrix, ofMatrix_inj]
  exact and_iff_right rfl

/-- What passes the test for Hermitian matrices is a Hermitian matrix of algebra, stored. -/
theorem exists_of_isHermitian {m : DenseMatrix (Scalar α)} (hermitian : m.isHermitian = true) :
    ∃ (p : Nat) (_ : NeZero p) (a : Matrix (Fin p) (Fin p) (Scalar α)),
      a.IsHermitian ∧ m = ofMatrix a := by
  obtain ⟨p, _, a, rfl⟩ := exists_of_square (isHermitian_iff.mp hermitian).1
  exact ⟨p, inferInstance, a, (isHermitian_ofMatrix a).mp hermitian, rfl⟩

/-- What passes the test for unitary matrices is a member of the unitary group, stored. -/
theorem exists_of_isUnitary {m : DenseMatrix (Scalar α)} (unitary : m.isUnitary = true) :
    ∃ (p : Nat) (_ : NeZero p), ∃ a ∈ unitaryGroup (Fin p) (Scalar α), m = ofMatrix a := by
  obtain ⟨p, _, a, rfl⟩ := exists_of_square (rows_eq_cols_of_isUnitary unitary)
  exact ⟨p, inferInstance, a, (isUnitary_ofMatrix a).mp unitary, rfl⟩

/-- The adjoint of a unitary matrix is its inverse on both sides. -/
theorem isUnitary_iff {m : DenseMatrix (Scalar α)} :
    m.isUnitary = true ↔ m.rows = m.cols ∧ m.multiply m.adjoint = identity m.rows ∧
      m.adjoint.multiply m = identity m.rows := by
  constructor
  · intro unitary
    obtain ⟨p, _, a, member, rfl⟩ := exists_of_isUnitary unitary
    rw [adjoint_ofMatrix]
    exact ⟨rfl, multiply_eq_identity_iff.mpr (mem_unitaryGroup_iff.mp member),
      multiply_eq_identity_iff.mpr (mem_unitaryGroup_iff'.mp member)⟩
  · rintro ⟨square, right, -⟩
    obtain ⟨p, _, a, rfl⟩ := exists_of_square square
    rw [adjoint_ofMatrix] at right
    exact (isUnitary_ofMatrix a).mpr
      (mem_unitaryGroup_iff.mpr (multiply_eq_identity_iff.mp right))

/-! ### Unitary matrices -/

section Unitary

variable {u v : DenseMatrix (Scalar α)}

theorem isUnitary_adjoint (unitary : u.isUnitary = true) : u.adjoint.isUnitary = true := by
  obtain ⟨p, _, a, member, rfl⟩ := exists_of_isUnitary unitary
  rw [adjoint_ofMatrix, isUnitary_ofMatrix]
  exact Unitary.star_mem member

theorem isUnitary_multiply (first : u.isUnitary = true) (second : v.isUnitary = true)
    (same : u.rows = v.rows) : ∃ m, u.multiply v = .ok m ∧ m.isUnitary = true := by
  obtain ⟨p, _, a, left, rfl⟩ := exists_of_isUnitary first
  obtain ⟨q, _, b, right, rfl⟩ := exists_of_isUnitary second
  obtain rfl : p = q := same
  exact ⟨ofMatrix (a * b), multiply_ofMatrix a b, (isUnitary_ofMatrix _).mpr (mul_mem left right)⟩

/-- The tensor product of unitary matrices times its adjoint is multiplied out factor by factor, and
    leaves an identity matrix inside an identity matrix. -/
theorem isUnitary_tensor (first : u.isUnitary = true) (second : v.isUnitary = true) :
    (u.tensor v).isUnitary = true := by
  obtain ⟨p, _, a, left, rfl⟩ := exists_of_isUnitary first
  obtain ⟨q, _, b, right, rfl⟩ := exists_of_isUnitary second
  rw [tensor_ofMatrix, isUnitary_ofMatrix, mem_unitaryGroup_iff, star_eq_conjTranspose]
  calc kron a b * (kron a b)ᴴ = kron a b * kron aᴴ bᴴ := by rw [conjTranspose_kron]
    _ = kron (a * aᴴ) (b * bᴴ) := kron_mul_kron a b aᴴ bᴴ
    _ = kron 1 1 := congrArg₂ kron (mem_unitaryGroup_iff.mp left) (mem_unitaryGroup_iff.mp right)
    _ = 1 := kron_one_one

end Unitary

/-! ### Hermitian matrices -/

section Hermitian

variable {a b : DenseMatrix (Scalar α)}

theorem isHermitian_tensor (first : a.isHermitian = true) (second : b.isHermitian = true) :
    (a.tensor b).isHermitian = true := by
  obtain ⟨square, self⟩ := isHermitian_iff.mp first
  obtain ⟨squareToo, selfToo⟩ := isHermitian_iff.mp second
  refine isHermitian_iff.mpr ⟨congrArg₂ (· * ·) square squareToo, ?_⟩
  rw [adjoint_tensor, self, selfToo]

theorem isHermitian_add (first : a.isHermitian = true) (second : b.isHermitian = true)
    (same : a.rows = b.rows) : ∃ m, a.add b = .ok m ∧ m.isHermitian = true := by
  obtain ⟨p, _, a, left, rfl⟩ := exists_of_isHermitian first
  obtain ⟨q, _, b, right, rfl⟩ := exists_of_isHermitian second
  obtain rfl : p = q := same
  exact ⟨ofMatrix (a + b), add_ofMatrix a b, (isHermitian_ofMatrix _).mpr (left.add right)⟩

/-- A matrix of any shape times its adjoint is Hermitian. -/
theorem isHermitian_multiply_adjoint (m : DenseMatrix (Scalar α)) :
    ∃ p, m.multiply m.adjoint = .ok p ∧ p.isHermitian = true := by
  cases m using ofMatrix_cases with | store a
  rw [adjoint_ofMatrix]
  exact ⟨ofMatrix (a * aᴴ), multiply_ofMatrix a aᴴ,
    (isHermitian_ofMatrix _).mpr (isHermitian_mul_conjTranspose_self a)⟩

end Hermitian

/-- Unitary and Hermitian matrices are closed under the operations, over exact parts. A matrix is
    unitary exactly if its adjoint is its inverse on both sides, and Hermitian exactly if it is
    square and its own adjoint. Adjoints, tensor products and products of unitary matrices are
    unitary; tensor products and sums of Hermitian matrices are Hermitian, and so is every matrix
    times its adjoint. -/
theorem unitary_hermitian_closed {α : Type u} [CommRing α] [BEq α] [LawfulBEq α] :
    (∀ m : DenseMatrix (Scalar α),
      (m.isUnitary = true ↔ m.rows = m.cols ∧ m.multiply m.adjoint = identity m.rows ∧
        m.adjoint.multiply m = identity m.rows) ∧
      (m.isHermitian = true ↔ m.rows = m.cols ∧ m.adjoint = m)) ∧
    (∀ u v : DenseMatrix (Scalar α), u.isUnitary = true → v.isUnitary = true →
      u.adjoint.isUnitary = true ∧ (u.tensor v).isUnitary = true ∧
        (u.rows = v.rows → ∃ m, u.multiply v = .ok m ∧ m.isUnitary = true)) ∧
    (∀ a b : DenseMatrix (Scalar α), a.isHermitian = true → b.isHermitian = true →
      (a.tensor b).isHermitian = true ∧
        (a.rows = b.rows → ∃ m, a.add b = .ok m ∧ m.isHermitian = true)) ∧
    ∀ m : DenseMatrix (Scalar α), ∃ p, m.multiply m.adjoint = .ok p ∧ p.isHermitian = true := by
  refine ⟨fun m => ⟨isUnitary_iff, isHermitian_iff⟩, ?_, ?_, isHermitian_multiply_adjoint⟩
  · intro u v first second
    exact ⟨isUnitary_adjoint first, isUnitary_tensor first second,
      isUnitary_multiply first second⟩
  · intro a b first second
    exact ⟨isHermitian_tensor first second, isHermitian_add first second⟩

/-- A rotation that is not its own adjoint and an exchange, two observables, and a row. -/
theorem unitary_hermitian_closed_rotation :
    let u : DenseMatrix (Scalar ℚ) :=
      ⟨2, 2, #[⟨3 / 5, 0⟩, ⟨0, 4 / 5⟩, ⟨0, 4 / 5⟩, ⟨3 / 5, 0⟩], by decide, by decide, rfl⟩
    let v : DenseMatrix (Scalar ℚ) :=
      ⟨2, 2, #[⟨0, 0⟩, ⟨0, 1⟩, ⟨1, 0⟩, ⟨0, 0⟩], by decide, by decide, rfl⟩
    let a : DenseMatrix (Scalar ℚ) :=
      ⟨2, 2, #[⟨2, 0⟩, ⟨1, -1⟩, ⟨1, 1⟩, ⟨3, 0⟩], by decide, by decide, rfl⟩
    let b : DenseMatrix (Scalar ℚ) :=
      ⟨2, 2, #[⟨0, 0⟩, ⟨0, -1⟩, ⟨0, 1⟩, ⟨1 / 2, 0⟩], by decide, by decide, rfl⟩
    let row : DenseMatrix (Scalar ℚ) := ⟨1, 2, #[⟨1, 2⟩, ⟨0, -1⟩], by decide, by decide, rfl⟩
    u.isUnitary = true ∧ v.isUnitary = true ∧ u.rows = v.rows ∧ a.isHermitian = true ∧
      b.isHermitian = true ∧ a.rows = b.rows ∧ u.adjoint.isUnitary = true ∧
      (u.tensor v).isUnitary = true ∧ (∃ m, u.multiply v = .ok m ∧ m.isUnitary = true) ∧
      (a.tensor b).isHermitian = true ∧ (∃ m, a.add b = .ok m ∧ m.isHermitian = true) ∧
      ∃ p, row.multiply row.adjoint = .ok p ∧ p.isHermitian = true := by
  intro u v a b row
  have rotation : u.isUnitary = true := by decide +kernel
  have exchange : v.isUnitary = true := by decide +kernel
  have first : a.isHermitian = true := by decide +kernel
  have second : b.isHermitian = true := by decide +kernel
  obtain ⟨-, unitary, hermitian, squared⟩ := unitary_hermitian_closed (α := ℚ)
  obtain ⟨adjoint, tensor, product⟩ := unitary u v rotation exchange
  obtain ⟨tensorToo, sum⟩ := hermitian a b first second
  exact ⟨rotation, exchange, rfl, first, second, rfl, adjoint, tensor, product rfl, tensorToo,
    sum rfl, squared row⟩

end QuantumAssembler.DenseMatrix
