import Mathlib.Data.Rat.Sqrt
import Mathlib.LinearAlgebra.UnitaryGroup
import QuantumAssembler.Measurement
import QuantumAssembler.Proofs.DenseMatrix.OfMatrix

/-!
Module: QuantumAssembler.Proofs.Measurement.Unitary
Purpose: Unitary dynamics. Whether a matrix is unitary is tested on one side only, by its product
  with its adjoint; over exact parts the product in the other order is then the identity as well,
  because the matrix is square. So one application of the matrix keeps inner products. The states of
  an evolution are powers of the dynamics applied to the initial state, powers of a unitary matrix
  are unitary, and so the whole evolution keeps inner products and norms.
Main exports: DenseMatrix.isUnitary_ofMatrix, DenseMatrix.innerProduct_of_unitary,
  Measurement.evolve_ofMatrix, Measurement.evolution_conserves_innerProduct
-/

namespace QuantumAssembler

universe u

open Matrix

namespace DenseMatrix

variable {α : Type u} [CommRing α] {p : Nat} [NeZero p]

/-- The test for unitary matrices tells the members of the unitary group. -/
theorem isUnitary_ofMatrix [BEq α] [LawfulBEq α] (a : Matrix (Fin p) (Fin p) (Scalar α)) :
    (ofMatrix a).isUnitary = true ↔ a ∈ unitaryGroup (Fin p) (Scalar α) := by
  rw [isUnitary, identityLike?_ofMatrix, adjoint_ofMatrix, multiply_ofMatrix]
  dsimp only
  rw [beq_iff_eq, ofMatrix_inj, mem_unitaryGroup_iff, star_eq_conjTranspose]

/-- A unitary matrix keeps the inner product of the columns it is applied to. -/
theorem innerProduct_of_unitary {a : Matrix (Fin p) (Fin p) (Scalar α)}
    (unitary : a ∈ unitaryGroup (Fin p) (Scalar α)) (v w : Matrix (Fin p) (Fin 1) (Scalar α)) :
    (ofMatrix (a * v)).innerProduct (ofMatrix (a * w)) = (ofMatrix v).innerProduct (ofMatrix w) := by
  -- The test looks at `a * aᴴ`. A one-sided inverse of a square matrix is an inverse on both sides.
  have inverse : aᴴ * a = 1 := mem_unitaryGroup_iff'.mp unitary
  have kept : (a * v)ᴴ * (a * w) = vᴴ * w :=
    calc (a * v)ᴴ * (a * w) = vᴴ * (aᴴ * a) * w := by
          rw [conjTranspose_mul]
          simp only [Matrix.mul_assoc]
      _ = vᴴ * w := by rw [inverse, Matrix.mul_one]
  rw [innerProduct_ofMatrix, innerProduct_ofMatrix, kept]

/-- Matrices with the same inner product with themselves have the same norm. -/
theorem norm_eq_of_innerProduct_eq [SquareRoot α] {m n : DenseMatrix (Scalar α)}
    (same : m.innerProduct m = n.innerProduct n) : m.norm = n.norm := by
  rw [norm, norm, same]

end DenseMatrix

namespace Measurement

open DenseMatrix

/-- The later states are the powers of the dynamics, applied to the initial state. -/
theorem evolve_ofMatrix {κ : Type u} [Semiring κ] {p q : Nat} [NeZero p] [NeZero q]
    (a : Matrix (Fin p) (Fin p) κ) (v : Matrix (Fin p) (Fin q) κ) (steps : Nat) :
    evolve (ofMatrix a) (ofMatrix v) steps =
      .ok ((List.range steps).map fun k => ofMatrix (a ^ (k + 1) * v)) := by
  induction steps generalizing v with
  | zero => rfl
  | succ steps ih =>
      -- What is left of the run starts from the state after one step.
      have later : ∀ k, a ^ (k + 1) * (a * v) = a ^ (k + 1 + 1) * v := by
        intro k
        rw [← Matrix.mul_assoc, ← pow_succ]
      calc evolve (ofMatrix a) (ofMatrix v) (steps + 1)
          = (do return ofMatrix (a * v) :: (← evolve (ofMatrix a) (ofMatrix (a * v)) steps)) := by
            rw [evolve, multiply_ofMatrix]
            rfl
        _ = .ok (ofMatrix (a * v) ::
              (List.range steps).map fun k => ofMatrix (a ^ (k + 1) * (a * v))) := by
            rw [ih]
            rfl
        _ = .ok ((List.range (steps + 1)).map fun k => ofMatrix (a ^ (k + 1) * v)) := by
            rw [List.range_succ_eq_map, List.map_cons, List.map_map, zero_add, pow_one]
            simp only [later, Function.comp_def, Nat.succ_eq_add_one]

/-- Unitary dynamics conserve inner products over any number of steps, and so the norms of states.
    Parts are exact; how roots are taken is left open. -/
theorem evolution_conserves_innerProduct {α : Type u} [CommRing α] [BEq α] [LawfulBEq α]
    [SquareRoot α] {n : Nat} {dynamics v w : DenseMatrix (Scalar α)}
    (square : dynamics.shape = ⟨n, n⟩) (unitary : dynamics.isUnitary = true)
    (first : v.shape = ⟨n, 1⟩) (second : w.shape = ⟨n, 1⟩) (steps : Nat) :
    ∃ vs ws z x, evolve dynamics v steps = .ok vs ∧ evolve dynamics w steps = .ok ws ∧
      vs.length = steps ∧ ws.length = steps ∧ v.innerProduct w = .ok z ∧ v.norm = .ok x ∧
      ∀ k < steps, ∃ vk wk, vs[k]? = some vk ∧ ws[k]? = some wk ∧
        vk.innerProduct wk = .ok z ∧ vk.norm = .ok x := by
  obtain ⟨_, _, a, rfl⟩ := exists_ofMatrix square
  obtain ⟨_, _, v, rfl⟩ := exists_ofMatrix first
  obtain ⟨_, _, w, rfl⟩ := exists_ofMatrix second
  have powers : ∀ k, a ^ (k + 1) ∈ unitaryGroup (Fin n) (Scalar α) :=
    fun k => pow_mem ((isUnitary_ofMatrix a).mp unitary) (k + 1)
  have root : (ofMatrix v).norm = .ok (SquareRoot.sqrt (vᴴ * v).trace.re) := by
    rw [DenseMatrix.norm, innerProduct_ofMatrix]
    rfl
  refine ⟨_, _, (vᴴ * w).trace, _, evolve_ofMatrix a v steps, evolve_ofMatrix a w steps,
    by simp, by simp, innerProduct_ofMatrix v w, root, fun k within => ?_⟩
  refine ⟨ofMatrix (a ^ (k + 1) * v), ofMatrix (a ^ (k + 1) * w), ?_, ?_, ?_, ?_⟩
  · simp [within]
  · simp [within]
  · exact (innerProduct_of_unitary (powers k) v w).trans (innerProduct_ofMatrix v w)
  · exact (norm_eq_of_innerProduct_eq (innerProduct_of_unitary (powers k) v v)).trans root

/-- Rational numbers with the roots of their squares; other roots are rounded down. -/
instance : SquareRoot ℚ where
  sqrt := Rat.sqrt
  isFinite _ := true

/-- Three steps of a rotation that is not its own adjoint, from a state of norm five. -/
theorem evolution_conserves_innerProduct_rotation :
    let dynamics : DenseMatrix (Scalar ℚ) :=
      ⟨2, 2, #[⟨3 / 5, 0⟩, ⟨0, 4 / 5⟩, ⟨0, 4 / 5⟩, ⟨3 / 5, 0⟩], by decide, by decide, rfl⟩
    let v : DenseMatrix (Scalar ℚ) := ⟨2, 1, #[⟨3, 0⟩, ⟨0, 4⟩], by decide, by decide, rfl⟩
    let w : DenseMatrix (Scalar ℚ) := ⟨2, 1, #[⟨1, 1⟩, ⟨2, 0⟩], by decide, by decide, rfl⟩
    dynamics.shape = ⟨2, 2⟩ ∧ dynamics.isUnitary = true ∧ v.shape = ⟨2, 1⟩ ∧ w.shape = ⟨2, 1⟩ ∧
      ∃ vs ws z, evolve dynamics v 3 = .ok vs ∧ evolve dynamics w 3 = .ok ws ∧
        v.innerProduct w = .ok z ∧ v.norm = .ok 5 ∧
        ∀ k < 3, ∃ vk wk, vs[k]? = some vk ∧ ws[k]? = some wk ∧
          vk.innerProduct wk = .ok z ∧ vk.norm = .ok 5 := by
  intro dynamics v w
  have unitary : dynamics.isUnitary = true := by decide +kernel
  have length : v.norm = .ok 5 := by decide +kernel
  obtain ⟨vs, ws, z, x, left, right, -, -, product, sameLength, kept⟩ :=
    evolution_conserves_innerProduct (v := v) (w := w) rfl unitary rfl rfl 3
  cases length.symm.trans sameLength
  exact ⟨rfl, unitary, rfl, rfl, vs, ws, z, left, right, product, length, kept⟩

end Measurement

end QuantumAssembler
