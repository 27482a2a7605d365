import Mathlib.Algebra.BigOperators.Field
import QuantumAssembler.Proofs.DenseMatrix.Numbers

/-!
Module: QuantumAssembler.Proofs.Measurement.Probability
Purpose: Probabilities over the real numbers. All of them are squared moduli divided by the squared
  norm, since squaring undoes the roots. They are a distribution exactly if this is the sum of all
  squared moduli: for columns always, for square matrices if these have no imaginary parts. Those of
  the positions of a column are the same for all nonzero multiples of it.
Main exports: IsDistribution, Measurement.shares, Measurement.probabilities_of_nonneg,
  Measurement.exists_of_probabilities, Measurement.probabilities_distribution,
  Measurement.probabilityAt_ofMatrix, Measurement.exists_distribution,
  Measurement.probabilityAt_distribution
-/

namespace QuantumAssembler

/-- Numbers between nought and one that add up to one. -/
structure IsDistribution {ι : Type*} [Fintype ι] (p : ι → ℝ) : Prop where
  nonneg : ∀ i, 0 ≤ p i
  le_one : ∀ i, p i ≤ 1
  sum_eq_one : ∑ i, p i = 1

/-- What adds up to one and is never negative cannot exceed one. -/
theorem IsDistribution.of_sum {ι : Type*} [Fintype ι] {p : ι → ℝ} (nonneg : ∀ i, 0 ≤ p i)
    (sum_eq_one : ∑ i, p i = 1) : IsDistribution p where
  nonneg := nonneg
  le_one i := by
    rw [← sum_eq_one]
    exact Finset.single_le_sum (fun j _ => nonneg j) (Finset.mem_univ i)
  sum_eq_one := sum_eq_one

namespace Measurement

open DenseMatrix PartialReal

/-! ### The matrix of probabilities -/

section Cells

variable {m : DenseMatrix (Scalar ℝ)} {z : Scalar ℝ}

/-- The probability of each cell, for a given squared norm. -/
noncomputable def shares (m : DenseMatrix (Scalar ℝ)) (x : ℝ) : DenseMatrix (Scalar PartialReal) :=
  m.map fun w => .ofReal (.number (w.squaredModulus / x))

theorem cell?_shares (m : DenseMatrix (Scalar ℝ)) (x : ℝ) (i : Fin m.rows) (j : Fin m.cols) :
    (shares m x).cell? i j = some (.ofReal (.number ((m.entry i j).squaredModulus / x))) :=
  (dif_pos ⟨i.isLt, j.isLt⟩).trans (congrArg some (entry_map _ m i j))

theorem cell?_shares_ofMatrix {p q : Nat} [NeZero p] [NeZero q]
    (a : Matrix (Fin p) (Fin q) (Scalar ℝ)) (x : ℝ) (i : Fin p) (j : Fin q) :
    (shares (ofMatrix a) x).cell? i j = some (.ofReal (.number ((a i j).squaredModulus / x))) := by
  rw [← entry_ofMatrix a i j]
  exact cell?_shares (ofMatrix a) x i j

theorem probabilities_of_neg (product : m.innerProduct m = .ok z) (negative : z.re < 0) :
    probabilities m.ofNumbers = .error (.invalidOperand .noRealSquaredNorm) := by
  rw [probabilities, norm_ofNumbers, product, Except.map, sqrt_of_neg negative]
  rfl

/-- A squared norm that is not negative is a number, and only zero is no divisor. -/
theorem probabilities_of_nonneg (product : m.innerProduct m = .ok z) (nonneg : 0 ≤ z.re) :
    probabilities m.ofNumbers =
      if z.re = 0 then .error .divideByZero else .ok (shares m z.re) := by
  have squaredNorm := sqrt_mul_sqrt nonneg
  rw [probabilities, norm_ofNumbers, product]
  simp only [Except.map, bind, Except.bind, squaredNorm, isFinite_number, number_beq_zero]
  by_cases zero : z.re = 0
  · simp [zero]
  · have share (w : Scalar ℝ) :
        (Scalar.ofNumbers w).modulus * (Scalar.ofNumbers w).modulus / number z.re =
          number (w.squaredModulus / z.re) := by
      rw [Scalar.modulus_mul_modulus, number_div zero]
    cases m using ofMatrix_cases with | store a
    simp only [zero, ofNumbers, shares, map_ofMatrix, Matrix.map_map, Function.comp_def, share]
    rfl

/-- Only a positive squared norm lets there be probabilities. -/
theorem exists_of_probabilities {r : DenseMatrix (Scalar PartialReal)}
    (made : probabilities m.ofNumbers = .ok r) :
    ∃ z, m.innerProduct m = .ok z ∧ 0 < z.re ∧ r = shares m z.re := by
  cases product : m.innerProduct m with
  | error failure =>
      rw [probabilities, norm_ofNumbers, product] at made
      cases made
  | ok z =>
      rcases lt_or_ge z.re 0 with negative | nonneg
      · rw [probabilities_of_neg product negative] at made
        cases made
      · rw [probabilities_of_nonneg product nonneg] at made
        split at made
        · cases made
        · rename_i nonzero
          cases made
          exact ⟨z, rfl, lt_of_le_of_ne nonneg (Ne.symm nonzero), rfl⟩

/-- The probabilities are real and not negative. They are a distribution for columns, and for square
    matrices without imaginary parts; in all other cases they add up to more than one. -/
theorem probabilities_distribution {r : DenseMatrix (Scalar PartialReal)}
    (made : probabilities m.ofNumbers = .ok r) :
    ∃ p : Fin m.rows × Fin m.cols → ℝ, r.shape = m.shape ∧
      (∀ (i : Fin m.rows) (j : Fin m.cols), r.cell? i j = some (.ofReal (.number (p (i, j))))) ∧
        (∀ k, 0 ≤ p k) ∧ (IsDistribution p ∨ 1 < ∑ k, p k) ∧
          (IsDistribution p ↔ m.cols = 1 ∨ ∀ i j, (m.entry i j).im = 0) := by
  obtain ⟨z, product, positive, rfl⟩ := exists_of_probabilities made
  obtain ⟨atMost, equal⟩ := re_innerProduct_self_le_mass product
  let p : Fin m.rows × Fin m.cols → ℝ := fun k => (m.entry k.1 k.2).squaredModulus / z.re
  have nonneg (k) : 0 ≤ p k := div_nonneg (m.entry k.1 k.2).squaredModulus_nonneg positive.le
  have sum : ∑ k, p k = m.mass / z.re :=
    calc ∑ k, p k = ∑ i, ∑ j, p (i, j) := Fintype.sum_prod_type p
      _ = m.mass / z.re := by simp only [p, mass, Finset.sum_div]
  have whole : IsDistribution p ↔ ∑ k, p k = 1 := ⟨IsDistribution.sum_eq_one, .of_sum nonneg⟩
  have least : 1 ≤ ∑ k, p k := by
    rw [sum]
    exact (one_le_div positive).mpr atMost
  refine ⟨p, rfl, cell?_shares m z.re, nonneg, ?_, ?_⟩
  · rw [whole]
    exact least.eq_or_lt.imp_left Eq.symm
  · rw [whole, sum, div_eq_one_iff_eq positive.ne', equal]

end Cells

/-- The probabilities of a real diagonal matrix. -/
theorem probabilities_distribution_diagonal :
    let m : DenseMatrix (Scalar ℝ) := ofMatrix !![⟨3, 0⟩, 0; 0, ⟨4, 0⟩]
    ∃ r, probabilities m.ofNumbers = .ok r ∧ ∃ p : Fin 2 × Fin 2 → ℝ, IsDistribution p ∧
      ∀ i j : Fin 2, r.cell? i j = some (.ofReal (.number (p (i, j)))) := by
  intro m
  have positive : (0 : ℝ) < ((⟨3, 0⟩ : Scalar ℝ) * ⟨3, 0⟩ + (⟨4, 0⟩ : Scalar ℝ) * ⟨4, 0⟩).re := by
    norm_num
  have made := probabilities_of_nonneg (innerProduct_diagonal ⟨3, 0⟩ ⟨4, 0⟩) positive.le
  rw [if_neg positive.ne'] at made
  obtain ⟨p, -, cells, -, -, whole⟩ := probabilities_distribution made
  have real (i j : Fin 2) : (m.entry i j).im = 0 := by
    rw [entry_ofMatrix]
    fin_cases i <;> fin_cases j <;> rfl
  exact ⟨_, made, p, whole.mpr (.inr real), cells⟩

/-- Imaginary parts are squared without conjugation in the squared norm of a square matrix, and with
    it in the squared moduli. So a cell can have more than everything. -/
theorem probabilities_exceed_one :
    let m : DenseMatrix (Scalar ℝ) := ofMatrix !![⟨5, 0⟩, 0; 0, ⟨0, 3⟩]
    ∃ r, probabilities m.ofNumbers = .ok r ∧
      r.cell? 0 0 = some (.ofReal (.number (25 / 16))) ∧
      r.cell? 1 1 = some (.ofReal (.number (9 / 16))) ∧
      ¬ ∃ p : Fin 2 × Fin 2 → ℝ, IsDistribution p ∧
        ∀ i j : Fin 2, r.cell? i j = some (.ofReal (.number (p (i, j)))) := by
  intro m
  have squaredNorm : ((⟨5, 0⟩ : Scalar ℝ) * ⟨5, 0⟩ + (⟨0, 3⟩ : Scalar ℝ) * ⟨0, 3⟩).re = 16 := by
    norm_num
  have made := probabilities_of_nonneg (innerProduct_diagonal ⟨5, 0⟩ ⟨0, 3⟩) (by norm_num)
  rw [squaredNorm, if_neg (by norm_num)] at made
  have first : (shares m 16).cell? 0 0 = some (.ofReal (.number (25 / 16))) := by
    have cell := cell?_shares_ofMatrix !![⟨5, 0⟩, 0; 0, ⟨0, 3⟩] 16 0 0
    norm_num [Scalar.squaredModulus] at cell
    exact cell
  have last : (shares m 16).cell? 1 1 = some (.ofReal (.number (9 / 16))) := by
    have cell := cell?_shares_ofMatrix !![⟨5, 0⟩, 0; 0, ⟨0, 3⟩] 16 1 1
    norm_num [Scalar.squaredModulus] at cell
    exact cell
  refine ⟨_, made, first, last, ?_⟩
  rintro ⟨p, distribution, cells⟩
  have share : p (0, 0) = 25 / 16 := by
    have same := (cells 0 0).symm.trans first
    simpa [Scalar.ofReal] using same
  have excess := distribution.le_one (0, 0)
  rw [share] at excess
  norm_num at excess

/-! ### The probabilities of positions -/

section Positions

variable {n : Nat} {v : DenseMatrix (Scalar ℝ)}

/-- A position of a column has its share of the squared moduli, unless there are none. -/
theorem probabilityAt_ofMatrix [NeZero n] (a : Matrix (Fin n) (Fin 1) (Scalar ℝ)) (i : Fin n) :
    probabilityAt (ofMatrix a).ofNumbers i =
      if (ofMatrix a).mass = 0 then .error .divideByZero
      else .ok (.number ((a i 0).squaredModulus / (ofMatrix a).mass)) := by
  have cell : (ofMatrix a).ofNumbers.cell? i 0 = some (.ofNumbers (a i 0)) := by
    rw [ofNumbers, map_ofMatrix]
    exact cell?_ofMatrix (a.map Scalar.ofNumbers) i 0
  have single : ¬ (!(ofMatrix a).ofNumbers.isColumn) = true := Bool.false_ne_true
  have root : √(ofMatrix a).mass = 0 ↔ (ofMatrix a).mass = 0 :=
    Real.sqrt_eq_zero (ofMatrix a).mass_nonneg
  rw [probabilityAt, if_neg single, cell]
  simp only [norm_column (v := ofMatrix a) rfl, bind, Except.bind, number_beq_zero, root,
    decide_eq_true_eq, number_mul, Real.mul_self_sqrt (ofMatrix a).mass_nonneg,
    Scalar.modulus_mul_modulus]
  by_cases zero : (ofMatrix a).mass = 0
  · rw [if_pos zero, if_pos zero]
  · rw [if_neg zero, if_neg zero, number_div zero]
    rfl

/-- Behind the last position there is none, whether the column is zero or not. -/
theorem probabilityAt_outside (column : v.shape = ⟨n, 1⟩) {i : Nat} (outside : n ≤ i) :
    probabilityAt v.ofNumbers i = .error (.noSuchPosition i n) := by
  obtain ⟨_, _, a, rfl⟩ := exists_ofMatrix column
  have single : ¬ (!(ofMatrix a).ofNumbers.isColumn) = true := Bool.false_ne_true
  have nothing : (ofMatrix a).ofNumbers.cell? i 0 = none :=
    dif_neg fun inside => absurd inside.1 (not_lt.mpr outside)
  rw [probabilityAt, if_neg single, nothing]
  rfl

/-- The cells of a column have their shares of the squared moduli as well. -/
theorem probabilities_column (column : v.shape = ⟨n, 1⟩) :
    probabilities v.ofNumbers =
      if v.mass = 0 then .error .divideByZero else .ok (shares v v.mass) :=
  probabilities_of_nonneg (innerProduct_self_column column) v.mass_nonneg

theorem probabilityAt_of_isZero (column : v.shape = ⟨n, 1⟩) (zero : v.IsZero) {i : Nat}
    (inside : i < n) : probabilityAt v.ofNumbers i = .error .divideByZero := by
  have empty := (mass_eq_zero_iff column).mpr zero
  obtain ⟨_, _, a, rfl⟩ := exists_ofMatrix column
  exact (probabilityAt_ofMatrix a ⟨i, inside⟩).trans (if_pos empty)

/-- A column other than zero has a distribution over its positions, and both ways to ask for
    probabilities tell it. -/
theorem exists_distribution (column : v.shape = ⟨n, 1⟩) (nonzero : ¬ v.IsZero) :
    ∃ p : Fin n → ℝ, IsDistribution p ∧
      (∀ i : Fin n, probabilityAt v.ofNumbers i = .ok (.number (p i))) ∧
      ∃ r, probabilities v.ofNumbers = .ok r ∧
        ∀ i : Fin n, r.cell? i 0 = some (.ofReal (.number (p i))) := by
  have some : v.mass ≠ 0 := mt (mass_eq_zero_iff column).mp nonzero
  have made := (probabilities_column column).trans (if_neg some)
  have nonneg := v.mass_nonneg
  obtain ⟨_, _, a, rfl⟩ := exists_ofMatrix column
  have sum : ∑ i, (a i 0).squaredModulus / (ofMatrix a).mass = 1 := by
    rw [← Finset.sum_div, ← mass_ofMatrix_column, div_self some]
  refine ⟨fun i => (a i 0).squaredModulus / (ofMatrix a).mass, ?_, ?_, _, made, ?_⟩
  · exact .of_sum (fun i => div_nonneg (a i 0).squaredModulus_nonneg nonneg) sum
  · exact fun i => (probabilityAt_ofMatrix a i).trans (if_neg some)
  · exact fun i => cell?_shares_ofMatrix a _ i 0

/-- A nonzero factor changes no probability. -/
theorem probabilityAt_scale (column : v.shape = ⟨n, 1⟩) {c : Scalar ℝ} (nonzero : c ≠ 0) (i : Nat) :
    probabilityAt (v.ofNumbers.scale (.ofNumbers c)) i = probabilityAt v.ofNumbers i := by
  have factor : c.squaredModulus ≠ 0 := mt Scalar.squaredModulus_eq_zero_iff.mp nonzero
  rw [scale_ofNumbers]
  rcases lt_or_ge i n with inside | outside
  · obtain ⟨_, _, a, rfl⟩ := exists_ofMatrix column
    obtain ⟨i, rfl⟩ : ∃ k : Fin n, k.val = i := ⟨⟨i, inside⟩, rfl⟩
    have mass : (ofMatrix (c • a)).mass = c.squaredModulus * (ofMatrix a).mass := by
      rw [← scale_ofMatrix, mass_scale]
    rw [scale_ofMatrix, probabilityAt_ofMatrix, probabilityAt_ofMatrix, mass, Matrix.smul_apply,
      smul_eq_mul, Scalar.squaredModulus_mul, mul_div_mul_left _ _ factor]
    simp only [mul_eq_zero, or_iff_right factor]
  · have scaled : (v.scale c).shape = ⟨n, 1⟩ := (shape_scale v c).trans column
    rw [probabilityAt_outside column outside, probabilityAt_outside scaled outside]

/-- The probabilities of the positions of a column are a distribution, unless it is zero, and then
    there are none. They are those of the matrix of probabilities, and the same for all nonzero
    multiples of the column. -/
theorem probabilityAt_distribution (column : v.shape = ⟨n, 1⟩) :
    ((∀ i < n, ∃ x, probabilityAt v.ofNumbers i = .ok x) ↔ ¬ v.IsZero) ∧
      (v.IsZero → ∀ i < n, probabilityAt v.ofNumbers i = .error .divideByZero) ∧
      (∀ i, n ≤ i → probabilityAt v.ofNumbers i = .error (.noSuchPosition i n)) ∧
      (¬ v.IsZero → ∃ p : Fin n → ℝ, IsDistribution p ∧
        (∀ i : Fin n, probabilityAt v.ofNumbers i = .ok (.number (p i))) ∧
        ∃ r, probabilities v.ofNumbers = .ok r ∧
          ∀ i : Fin n, r.cell? i 0 = some (.ofReal (.number (p i)))) ∧
      ∀ c ≠ 0, ∀ i,
        probabilityAt (v.ofNumbers.scale (.ofNumbers c)) i = probabilityAt v.ofNumbers i := by
  refine ⟨⟨?_, ?_⟩, fun zero i => probabilityAt_of_isZero column zero,
    fun i => probabilityAt_outside column, exists_distribution column,
    fun c nonzero => probabilityAt_scale column nonzero⟩
  · intro found zero
    have rows : v.rows = n := congrArg Shape.rows column
    have first : 0 < n := rows ▸ v.rows_pos
    obtain ⟨x, found⟩ := found 0 first
    cases (probabilityAt_of_isZero column zero first).symm.trans found
  · intro nonzero i inside
    obtain ⟨p, -, known, -⟩ := exists_distribution column nonzero
    exact ⟨_, known ⟨i, inside⟩⟩

/-- Two positions with unequal probabilities, and a column that has none. -/
theorem probabilityAt_distribution_pair :
    let v : DenseMatrix (Scalar ℝ) := ofMatrix !![⟨3, 0⟩; ⟨0, 4⟩]
    let zero : DenseMatrix (Scalar ℝ) := ofMatrix (0 : Matrix (Fin 2) (Fin 1) (Scalar ℝ))
    v.shape = ⟨2, 1⟩ ∧ ¬ v.IsZero ∧
      (∃ p : Fin 2 → ℝ, IsDistribution p ∧
        ∀ i : Fin 2, probabilityAt v.ofNumbers i = .ok (.number (p i))) ∧
      probabilityAt v.ofNumbers 2 = .error (.noSuchPosition 2 2) ∧
      probabilityAt (v.ofNumbers.scale (.ofNumbers ⟨0, 1⟩)) 1 = probabilityAt v.ofNumbers 1 ∧
      zero.IsZero ∧ probabilityAt zero.ofNumbers 1 = .error .divideByZero := by
  intro v zero
  have nonzero : ¬ v.IsZero := not_isZero_of_cell (i := 0) (j := 0) (by simp [Scalar.ext_iff])
  have turn : (⟨0, 1⟩ : Scalar ℝ) ≠ 0 := by simp [Scalar.ext_iff]
  have empty : zero.IsZero := isZero_ofMatrix.mpr rfl
  obtain ⟨-, -, outside, inside, scaled⟩ := probabilityAt_distribution (n := 2) (v := v) rfl
  obtain ⟨p, distribution, known, -⟩ := inside nonzero
  obtain ⟨-, fails, -⟩ := probabilityAt_distribution (n := 2) (v := zero) rfl
  exact ⟨rfl, nonzero, ⟨p, distribution, known⟩, outside 2 le_rfl, scaled _ turn 1, empty,
    fails empty 1 (by decide)⟩

end Positions

end Measurement

end QuantumAssembler
