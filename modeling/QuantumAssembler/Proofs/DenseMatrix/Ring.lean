import QuantumAssembler.Proofs.DenseMatrix.OfMatrix

/-!
Module: QuantumAssembler.Proofs.DenseMatrix.Ring
Purpose: The laws of a ring for the product of matrices, over exact cells. The product is
  associative, it distributes over sums and differences on both sides, factors can be moved out of
  it, and identity matrices are neutral. Where shapes fit, both sides of each law have a result, and
  it is the same one.
Main exports: DenseMatrix.multiply_assoc, DenseMatrix.multiply_zipWith, DenseMatrix.multiply_add,
  DenseMatrix.add_multiply, DenseMatrix.multiply_subtract, DenseMatrix.subtract_multiply,
  DenseMatrix.scale_multiply, DenseMatrix.multiply_scale, DenseMatrix.identity_multiply,
  DenseMatrix.multiply_identity, DenseMatrix.multiplication_ring_laws
-/

namespace QuantumAssembler.DenseMatrix

universe u

variable {κ : Type u}

section Laws

variable {a b c : DenseMatrix κ} {p q r s : Nat}

/-- Of three matrices in a row it makes no difference which two are multiplied first. -/
theorem multiply_assoc [NonUnitalSemiring κ] (first : a.shape = ⟨p, q⟩) (second : b.shape = ⟨q, r⟩)
    (third : c.shape = ⟨r, s⟩) :
    BothYield ⟨p, s⟩ (do (← a.multiply b).multiply c) (do a.multiply (← b.multiply c)) := by
  obtain ⟨_, _, a, rfl⟩ := exists_ofMatrix first
  obtain ⟨_, _, b, rfl⟩ := exists_ofMatrix second
  obtain ⟨_, _, c, rfl⟩ := exists_ofMatrix third
  refine ⟨ofMatrix (a * b * c), ?_, ?_, rfl⟩
  · rw [multiply_ofMatrix]
    exact multiply_ofMatrix (a * b) c
  · rw [multiply_ofMatrix, Matrix.mul_assoc]
    exact multiply_ofMatrix a (b * c)

/-! ### Sums and differences

Addition and subtraction of cells are alike in two respects: factors distribute over them, and a sum
of what they give is what they give on the sums. The product of matrices distributes over every
operation of this kind. -/

section Distributive

variable [NonUnitalNonAssocSemiring κ] {f : κ → κ → κ}

theorem multiply_zipWith (operation : Operation)
    (factor : ∀ x y z, x * f y z = f (x * y) (x * z))
    (sums : ∀ (n : Nat) (g h : Fin n → κ), ∑ k, f (g k) (h k) = f (∑ k, g k) (∑ k, h k))
    (first : a.shape = ⟨p, q⟩) (second : b.shape = ⟨q, r⟩) (third : c.shape = ⟨q, r⟩) :
    BothYield ⟨p, r⟩ (do a.multiply (← zipWith operation f b c))
      (do zipWith operation f (← a.multiply b) (← a.multiply c)) := by
  obtain ⟨_, _, a, rfl⟩ := exists_ofMatrix first
  obtain ⟨_, _, b, rfl⟩ := exists_ofMatrix second
  obtain ⟨_, _, c, rfl⟩ := exists_ofMatrix third
  refine ⟨ofMatrix (a * Matrix.of fun i j => f (b i j) (c i j)), ?_, ?_, rfl⟩
  · rw [zipWith_ofMatrix]
    exact multiply_ofMatrix a _
  · rw [multiply_ofMatrix, multiply_ofMatrix]
    refine (zipWith_ofMatrix operation f (a * b) (a * c)).trans
      (congrArg (Except.ok ∘ ofMatrix) (Matrix.ext fun i j => ?_))
    simp only [Matrix.of_apply, Matrix.mul_apply, factor, sums]

theorem zipWith_multiply (operation : Operation)
    (factor : ∀ x y z, f x y * z = f (x * z) (y * z))
    (sums : ∀ (n : Nat) (g h : Fin n → κ), ∑ k, f (g k) (h k) = f (∑ k, g k) (∑ k, h k))
    (first : a.shape = ⟨p, q⟩) (second : b.shape = ⟨p, q⟩) (third : c.shape = ⟨q, r⟩) :
    BothYield ⟨p, r⟩ (do (← zipWith operation f a b).multiply c)
      (do zipWith operation f (← a.multiply c) (← b.multiply c)) := by
  obtain ⟨_, _, a, rfl⟩ := exists_ofMatrix first
  obtain ⟨_, _, b, rfl⟩ := exists_ofMatrix second
  obtain ⟨_, _, c, rfl⟩ := exists_ofMatrix third
  refine ⟨ofMatrix ((Matrix.of fun i j => f (a i j) (b i j)) * c), ?_, ?_, rfl⟩
  · rw [zipWith_ofMatrix]
    exact multiply_ofMatrix _ c
  · rw [multiply_ofMatrix, multiply_ofMatrix]
    refine (zipWith_ofMatrix operation f (a * c) (b * c)).trans
      (congrArg (Except.ok ∘ ofMatrix) (Matrix.ext fun i j => ?_))
    simp only [Matrix.of_apply, Matrix.mul_apply, factor, sums]

end Distributive

section Rings

variable [NonUnitalNonAssocRing κ]

theorem multiply_add (first : a.shape = ⟨p, q⟩) (second : b.shape = ⟨q, r⟩)
    (third : c.shape = ⟨q, r⟩) :
    BothYield ⟨p, r⟩ (do a.multiply (← b.add c)) (do (← a.multiply b).add (← a.multiply c)) :=
  multiply_zipWith .add mul_add (fun _ _ _ => Finset.sum_add_distrib) first second third

theorem multiply_subtract (first : a.shape = ⟨p, q⟩) (second : b.shape = ⟨q, r⟩)
    (third : c.shape = ⟨q, r⟩) :
    BothYield ⟨p, r⟩ (do a.multiply (← b.subtract c))
      (do (← a.multiply b).subtract (← a.multiply c)) :=
  multiply_zipWith .subtract mul_sub (fun _ => Finset.sum_sub_distrib) first second third

theorem add_multiply (first : a.shape = ⟨p, q⟩) (second : b.shape = ⟨p, q⟩)
    (third : c.shape = ⟨q, r⟩) :
    BothYield ⟨p, r⟩ (do (← a.add b).multiply c) (do (← a.multiply c).add (← b.multiply c)) :=
  zipWith_multiply .add add_mul (fun _ _ _ => Finset.sum_add_distrib) first second third

theorem subtract_multiply (first : a.shape = ⟨p, q⟩) (second : b.shape = ⟨p, q⟩)
    (third : c.shape = ⟨q, r⟩) :
    BothYield ⟨p, r⟩ (do (← a.subtract b).multiply c)
      (do (← a.multiply c).subtract (← b.multiply c)) :=
  zipWith_multiply .subtract sub_mul (fun _ => Finset.sum_sub_distrib) first second third

end Rings

/-! ### Factors -/

theorem scale_multiply [Semiring κ] (first : a.shape = ⟨p, q⟩)
    (second : b.shape = ⟨q, r⟩) (z : κ) :
    BothYield ⟨p, r⟩ ((a.scale z).multiply b) (do return (← a.multiply b).scale z) := by
  obtain ⟨_, _, a, rfl⟩ := exists_ofMatrix first
  obtain ⟨_, _, b, rfl⟩ := exists_ofMatrix second
  refine ⟨ofMatrix (z • (a * b)), ?_, ?_, rfl⟩
  · rw [scale_ofMatrix, multiply_ofMatrix, Matrix.smul_mul]
  · rw [multiply_ofMatrix]
    exact congrArg Except.ok (scale_ofMatrix (a * b) z)

/-- A factor of the right operand can be moved out if cells can be exchanged in products. -/
theorem multiply_scale [CommSemiring κ] (first : a.shape = ⟨p, q⟩)
    (second : b.shape = ⟨q, r⟩) (z : κ) :
    BothYield ⟨p, r⟩ (a.multiply (b.scale z)) (do return (← a.multiply b).scale z) := by
  obtain ⟨_, _, a, rfl⟩ := exists_ofMatrix first
  obtain ⟨_, _, b, rfl⟩ := exists_ofMatrix second
  refine ⟨ofMatrix (z • (a * b)), ?_, ?_, rfl⟩
  · rw [scale_ofMatrix, multiply_ofMatrix, Matrix.mul_smul]
  · rw [multiply_ofMatrix]
    exact congrArg Except.ok (scale_ofMatrix (a * b) z)

/-! ### Identities -/

section Neutral

variable [NonAssocSemiring κ]

theorem identity_multiply (m : DenseMatrix κ) : (do (← identity m.rows).multiply m) = .ok m := by
  cases m using ofMatrix_cases with | @store p q _ _ a
  rw [show (ofMatrix a).rows = p from rfl, identity_eq_ofMatrix]
  exact (multiply_ofMatrix 1 a).trans (by rw [Matrix.one_mul])

theorem multiply_identity (m : DenseMatrix κ) : (do m.multiply (← identity m.cols)) = .ok m := by
  cases m using ofMatrix_cases with | @store p q _ _ a
  rw [show (ofMatrix a).cols = q from rfl, identity_eq_ofMatrix]
  exact (multiply_ofMatrix a 1).trans (by rw [Matrix.mul_one])

end Neutral

end Laws

/-- The product of matrices with exact parts obeys the laws of a ring. For fitting shapes all steps
    on both sides of a law succeed, and the sides have the same result. -/
theorem multiplication_ring_laws {α : Type u} [CommRing α] :
    (∀ (p q r s : Nat) (a b c : DenseMatrix (Scalar α)),
      a.shape = ⟨p, q⟩ → b.shape = ⟨q, r⟩ → c.shape = ⟨r, s⟩ →
        BothYield ⟨p, s⟩ (do (← a.multiply b).multiply c) (do a.multiply (← b.multiply c))) ∧
    (∀ (p q r : Nat) (a b c : DenseMatrix (Scalar α)),
      a.shape = ⟨p, q⟩ → b.shape = ⟨q, r⟩ → c.shape = ⟨q, r⟩ →
        BothYield ⟨p, r⟩ (do a.multiply (← b.add c))
          (do (← a.multiply b).add (← a.multiply c)) ∧
        BothYield ⟨p, r⟩ (do a.multiply (← b.subtract c))
          (do (← a.multiply b).subtract (← a.multiply c))) ∧
    (∀ (p q r : Nat) (a b c : DenseMatrix (Scalar α)),
      a.shape = ⟨p, q⟩ → b.shape = ⟨p, q⟩ → c.shape = ⟨q, r⟩ →
        BothYield ⟨p, r⟩ (do (← a.add b).multiply c)
          (do (← a.multiply c).add (← b.multiply c)) ∧
        BothYield ⟨p, r⟩ (do (← a.subtract b).multiply c)
          (do (← a.multiply c).subtract (← b.multiply c))) ∧
    (∀ (p q r : Nat) (a b : DenseMatrix (Scalar α)) (z : Scalar α),
      a.shape = ⟨p, q⟩ → b.shape = ⟨q, r⟩ →
        BothYield ⟨p, r⟩ ((a.scale z).multiply b) (do return (← a.multiply b).scale z) ∧
        BothYield ⟨p, r⟩ (a.multiply (b.scale z)) (do return (← a.multiply b).scale z)) ∧
    ∀ a : DenseMatrix (Scalar α),
      (do (← identity a.rows).multiply a) = .ok a ∧
      (do a.multiply (← identity a.cols)) = .ok a := by
  refine ⟨?_, ?_, ?_, ?_, ?_⟩
  · intro p q r s a b c first second third
    exact multiply_assoc first second third
  · intro p q r a b c first second third
    exact ⟨multiply_add first second third, multiply_subtract first second third⟩
  · intro p q r a b c first second third
    exact ⟨add_multiply first second third, subtract_multiply first second third⟩
  · intro p q r a b z first second
    exact ⟨scale_multiply first second z, multiply_scale first second z⟩
  · intro a
    exact ⟨identity_multiply a, multiply_identity a⟩

/-- A row, two squares and a column of complex integers. -/
theorem multiplication_ring_laws_row :
    let a : DenseMatrix (Scalar ℤ) := ⟨1, 2, #[⟨1, 2⟩, ⟨0, -1⟩], by decide, by decide, rfl⟩
    let b : DenseMatrix (Scalar ℤ) :=
      ⟨2, 2, #[⟨0, 1⟩, ⟨3, 0⟩, ⟨-2, 1⟩, ⟨1, 1⟩], by decide, by decide, rfl⟩
    let c : DenseMatrix (Scalar ℤ) :=
      ⟨2, 2, #[⟨7, 0⟩, ⟨0, -2⟩, ⟨1, 4⟩, ⟨0, 0⟩], by decide, by decide, rfl⟩
    let d : DenseMatrix (Scalar ℤ) := ⟨2, 1, #[⟨5, 0⟩, ⟨0, -3⟩], by decide, by decide, rfl⟩
    a.shape = ⟨1, 2⟩ ∧ b.shape = ⟨2, 2⟩ ∧ c.shape = ⟨2, 2⟩ ∧ d.shape = ⟨2, 1⟩ ∧
      BothYield ⟨1, 1⟩ (do (← a.multiply b).multiply d) (do a.multiply (← b.multiply d)) ∧
      BothYield ⟨1, 2⟩ (do a.multiply (← b.subtract c))
        (do (← a.multiply b).subtract (← a.multiply c)) ∧
      BothYield ⟨2, 1⟩ (do (← b.add c).multiply d)
        (do (← b.multiply d).add (← c.multiply d)) := by
  intro a b c d
  obtain ⟨associative, left, right, -⟩ := multiplication_ring_laws (α := ℤ)
  exact ⟨rfl, rfl, rfl, rfl, associative 1 2 2 1 a b d rfl rfl rfl,
    (left 1 2 2 a b c rfl rfl rfl).2, (right 2 2 1 b c d rfl rfl rfl).1⟩

end QuantumAssembler.DenseMatrix
