import QuantumAssembler.Proofs.DenseMatrix.Euclidean

/-!
Module: QuantumAssembler.Proofs.Measurement.Amplitude
Purpose: Transition amplitudes over the real numbers. There is one between any two columns of equal
  length other than zero: their inner product, over the product of the roots of all their squared
  moduli. By the inequality of Cauchy and Schwarz no amplitude exceeds one; between multiples of a
  column the inequality is an equation.
Main exports: Measurement.transitionAmplitude_columns, Measurement.transitionAmplitude_le_one,
  Measurement.transitionAmplitude_exchange, Measurement.transitionAmplitude_self,
  Measurement.transitionAmplitude_scale, Measurement.transitionAmplitude_cauchy_schwarz
-/

namespace QuantumAssembler.Measurement

open DenseMatrix PartialReal

variable {n : Nat} {v w : DenseMatrix (Scalar ℝ)} {z : Scalar ℝ} {a : Scalar PartialReal}

/-! ### Amplitudes as numbers -/

/-- The inner product of two columns is divided by the roots of all their squared moduli, and these
    are no divisors only if one of the columns is zero. -/
theorem transitionAmplitude_columns (first : v.shape = ⟨n, 1⟩) (second : w.shape = ⟨n, 1⟩)
    (product : v.innerProduct w = .ok z) :
    transitionAmplitude v.ofNumbers w.ofNumbers =
      if v.mass = 0 ∨ w.mass = 0 then .error .divideByZero
      else .ok (.ofNumbers (z.dividedBy (√v.mass * √w.mass))) := by
  have vanishes : √v.mass * √w.mass = 0 ↔ v.mass = 0 ∨ w.mass = 0 := by
    rw [mul_eq_zero, Real.sqrt_eq_zero v.mass_nonneg, Real.sqrt_eq_zero w.mass_nonneg]
  rw [transitionAmplitude, innerProduct_ofNumbers, product, norm_column first, norm_column second]
  refine (Scalar.divide_ofReal z (√v.mass * √w.mass)).trans ?_
  simp only [vanishes]

/-- Only columns other than zero have an amplitude, and it is one of numbers. -/
theorem exists_of_transitionAmplitude (first : v.shape = ⟨n, 1⟩) (second : w.shape = ⟨n, 1⟩)
    (made : transitionAmplitude v.ofNumbers w.ofNumbers = .ok a) :
    ∃ z, v.innerProduct w = .ok z ∧ v.mass ≠ 0 ∧ w.mass ≠ 0 ∧
      a = .ofNumbers (z.dividedBy (√v.mass * √w.mass)) := by
  obtain ⟨x, y, -, -, product⟩ := innerProduct_eq_sum first second
  rw [transitionAmplitude_columns first second product] at made
  split at made
  · cases made
  · rename_i nonzero
    cases made
    obtain ⟨some, other⟩ := not_or.mp nonzero
    exact ⟨_, product, some, other, rfl⟩

theorem squaredModulus_amplitude (v w : DenseMatrix (Scalar ℝ)) (z : Scalar ℝ) :
    (z.dividedBy (√v.mass * √w.mass)).squaredModulus = z.squaredModulus / (v.mass * w.mass) := by
  rw [Scalar.squaredModulus_dividedBy, mul_mul_mul_comm, Real.mul_self_sqrt v.mass_nonneg,
    Real.mul_self_sqrt w.mass_nonneg]

/-! ### The laws of amplitudes -/

theorem transitionAmplitude_le_one (first : v.shape = ⟨n, 1⟩) (second : w.shape = ⟨n, 1⟩)
    (made : transitionAmplitude v.ofNumbers w.ofNumbers = .ok a) :
    ∃ x ≤ 1, a.squaredModulus = .number x := by
  obtain ⟨z, product, some, other, rfl⟩ := exists_of_transitionAmplitude first second made
  have positive : 0 < v.mass * w.mass :=
    mul_pos (lt_of_le_of_ne v.mass_nonneg some.symm) (lt_of_le_of_ne w.mass_nonneg other.symm)
  refine ⟨_, ?_, Scalar.squaredModulus_ofNumbers _⟩
  rw [squaredModulus_amplitude]
  exact (div_le_one positive).mpr (squaredModulus_innerProduct_le first second product)

/-- The way back has the conjugate amplitude. -/
theorem transitionAmplitude_exchange (first : v.shape = ⟨n, 1⟩) (second : w.shape = ⟨n, 1⟩)
    (made : transitionAmplitude v.ofNumbers w.ofNumbers = .ok a) :
    transitionAmplitude w.ofNumbers v.ofNumbers = .ok a.conjugate := by
  obtain ⟨z, product, some, other, rfl⟩ := exists_of_transitionAmplitude first second made
  obtain ⟨r, back, same⟩ := innerProduct_exchange second first
  rw [product] at same
  cases same
  rw [transitionAmplitude_columns second first back, if_neg (not_or.mpr ⟨other, some⟩), mul_comm,
    ← Scalar.conjugate_dividedBy]
  rfl

theorem transitionAmplitude_self (column : v.shape = ⟨n, 1⟩) (nonzero : ¬ v.IsZero) :
    transitionAmplitude v.ofNumbers v.ofNumbers = .ok 1 := by
  have some : v.mass ≠ 0 := mt (mass_eq_zero_iff column).mp nonzero
  rw [transitionAmplitude_columns column column (innerProduct_self_column column),
    if_neg (not_or.mpr ⟨some, some⟩), Real.mul_self_sqrt v.mass_nonneg, Scalar.ofReal_dividedBy some]
  rfl

/-- Between a column and a multiple of it the amplitude has modulus one. -/
theorem transitionAmplitude_scale (column : v.shape = ⟨n, 1⟩) (nonzero : ¬ v.IsZero) {c : Scalar ℝ}
    (factor : c ≠ 0) :
    ∃ a, transitionAmplitude v.ofNumbers (v.ofNumbers.scale (.ofNumbers c)) = .ok a ∧
      a.modulus = 1 := by
  have some : v.mass ≠ 0 := mt (mass_eq_zero_iff column).mp nonzero
  have size : c.squaredModulus ≠ 0 := mt Scalar.squaredModulus_eq_zero_iff.mp factor
  have other : (v.scale c).mass ≠ 0 := by
    rw [mass_scale]
    exact mul_ne_zero size some
  obtain ⟨z, product, same⟩ := innerProduct_scale column column c
  rw [innerProduct_self_column column] at same
  cases same
  have equal : (c * Scalar.ofReal v.mass).squaredModulus = v.mass * (v.scale c).mass := by
    rw [Scalar.squaredModulus_mul, Scalar.squaredModulus_ofReal, mass_scale]
    ring
  rw [scale_ofNumbers, transitionAmplitude_columns column ((shape_scale v c).trans column) product,
    if_neg (not_or.mpr ⟨some, other⟩)]
  refine ⟨_, rfl, ?_⟩
  rw [Scalar.modulus_ofNumbers, squaredModulus_amplitude, equal, div_self (mul_ne_zero some other),
    Real.sqrt_one]
  rfl

/-- Amplitudes between columns of one length. There is one exactly if both columns are nonzero, and
    otherwise the division by zero is reported. Its squared modulus is at most one; the amplitude
    from a column to itself is one, and that to a nonzero multiple has modulus one; the amplitude of
    the way back is the conjugate. -/
theorem transitionAmplitude_cauchy_schwarz (first : v.shape = ⟨n, 1⟩) (second : w.shape = ⟨n, 1⟩) :
    ((∃ a, transitionAmplitude v.ofNumbers w.ofNumbers = .ok a) ↔ ¬ v.IsZero ∧ ¬ w.IsZero) ∧
      (v.IsZero ∨ w.IsZero →
        transitionAmplitude v.ofNumbers w.ofNumbers = .error .divideByZero) ∧
      (∀ a, transitionAmplitude v.ofNumbers w.ofNumbers = .ok a →
        (∃ x ≤ 1, a.squaredModulus = .number x) ∧
          transitionAmplitude w.ofNumbers v.ofNumbers = .ok a.conjugate) ∧
      (¬ v.IsZero → transitionAmplitude v.ofNumbers v.ofNumbers = .ok 1) ∧
      (¬ v.IsZero → ∀ c ≠ 0,
        ∃ a, transitionAmplitude v.ofNumbers (v.ofNumbers.scale (.ofNumbers c)) = .ok a ∧
          a.modulus = 1) := by
  obtain ⟨x, y, -, -, product⟩ := innerProduct_eq_sum first second
  have calculated := transitionAmplitude_columns first second product
  have zeros : v.mass = 0 ∨ w.mass = 0 ↔ v.IsZero ∨ w.IsZero :=
    or_congr (mass_eq_zero_iff first) (mass_eq_zero_iff second)
  refine ⟨⟨?_, ?_⟩, ?_, ?_, transitionAmplitude_self first,
    fun nonzero c => transitionAmplitude_scale first nonzero⟩
  · rintro ⟨a, made⟩
    obtain ⟨z, -, some, other, -⟩ := exists_of_transitionAmplitude first second made
    exact ⟨mt (mass_eq_zero_iff first).mpr some, mt (mass_eq_zero_iff second).mpr other⟩
  · intro nonzero
    exact ⟨_, calculated.trans (if_neg (mt zeros.mp (not_or.mpr nonzero)))⟩
  · intro zero
    exact calculated.trans (if_pos (zeros.mpr zero))
  · intro a made
    exact ⟨transitionAmplitude_le_one first second made,
      transitionAmplitude_exchange first second made⟩

/-- Two columns that are no multiples of each other, and a multiple of the first one. -/
theorem transitionAmplitude_cauchy_schwarz_pair :
    let v : DenseMatrix (Scalar ℝ) := ofMatrix !![⟨1, 0⟩; ⟨0, 1⟩]
    let w : DenseMatrix (Scalar ℝ) := ofMatrix !![⟨2, 0⟩; ⟨1, 0⟩]
    v.shape = ⟨2, 1⟩ ∧ w.shape = ⟨2, 1⟩ ∧ ¬ v.IsZero ∧ ¬ w.IsZero ∧
      (∃ a, transitionAmplitude v.ofNumbers w.ofNumbers = .ok a ∧
        (∃ x ≤ 1, a.squaredModulus = .number x) ∧
          transitionAmplitude w.ofNumbers v.ofNumbers = .ok a.conjugate) ∧
      transitionAmplitude v.ofNumbers v.ofNumbers = .ok 1 ∧
      ∃ a, transitionAmplitude v.ofNumbers (v.ofNumbers.scale (.ofNumbers ⟨0, -2⟩)) = .ok a ∧
        a.modulus = 1 := by
  intro v w
  have some : ¬ v.IsZero := not_isZero_of_cell (i := 0) (j := 0) (by simp [Scalar.ext_iff])
  have other : ¬ w.IsZero := not_isZero_of_cell (i := 0) (j := 0) (by simp [Scalar.ext_iff])
  obtain ⟨defined, -, laws, self, multiple⟩ :=
    transitionAmplitude_cauchy_schwarz (n := 2) (v := v) (w := w) rfl rfl
  obtain ⟨a, made⟩ := defined.mpr ⟨some, other⟩
  exact ⟨rfl, rfl, some, other, ⟨a, made, laws a made⟩, self some,
    multiple some ⟨0, -2⟩ (by simp [Scalar.ext_iff])⟩

end QuantumAssembler.Measurement
