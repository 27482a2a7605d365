import QuantumAssembler.Proofs.DenseMatrix.Euclidean

/-!
Module: QuantumAssembler.Proofs.DenseMatrix.Metric
Purpose: Matrices divided by their norms, and distances, over the real numbers. A real factor comes
  out of the inner product of a matrix with itself as its square, whether the product conjugates or
  not; so what is divided by the root of a positive squared norm has norm one. The distance between
  two columns is that between their vectors in Euclidean space, from where it has the laws of a
  metric.
Main exports: DenseMatrix.exists_of_innerProduct_self, DenseMatrix.innerProduct_scale_self,
  DenseMatrix.normalize_ofNumbers, DenseMatrix.normalize_failure_iff, DenseMatrix.exists_normalized,
  DenseMatrix.distance_columns, DenseMatrix.distance_metric,
  DenseMatrix.normalize_unit_distance_metric
-/

namespace QuantumAssembler.DenseMatrix

open Matrix PartialReal

variable {m : DenseMatrix (Scalar ℝ)} {z : Scalar ℝ}

/-! ### Real factors -/

/-- What has an inner product with itself is a column, whose product conjugates, or a square of more
    than one row, whose product does not. -/
theorem exists_of_innerProduct_self (product : m.innerProduct m = .ok z) :
    (∃ (p : Nat) (_ : NeZero p) (a : Matrix (Fin p) (Fin 1) (Scalar ℝ)),
      m = ofMatrix a ∧ z = (aᴴ * a).trace) ∨
    ∃ (p : Nat) (_ : NeZero p) (a : Matrix (Fin p) (Fin p) (Scalar ℝ)),
      p ≠ 1 ∧ m = ofMatrix a ∧ z = (aᵀ * a).trace := by
  by_cases column : m.cols = 1
  · obtain ⟨_, _, a, stored⟩ := exists_ofMatrix (congrArg (Shape.mk m.rows) column)
    rw [stored, innerProduct_ofMatrix] at product
    exact .inl ⟨m.rows, inferInstance, a, stored, (Except.ok.inj product).symm⟩
  · obtain ⟨_, _, a, stored⟩ := exists_ofMatrix (shape_of_innerProduct_self product column)
    rw [stored, innerProduct_ofMatrix_square column] at product
    exact .inr ⟨m.cols, inferInstance, a, column, stored, (Except.ok.inj product).symm⟩

theorem trace_smul_mul_smul {p q : Nat} (a : Matrix (Fin q) (Fin p) (Scalar ℝ))
    (b : Matrix (Fin p) (Fin q) (Scalar ℝ)) (c : ℝ) :
    ((Scalar.ofReal c • a) * (Scalar.ofReal c • b)).trace = .ofReal (c * c) * (a * b).trace := by
  rw [Matrix.smul_mul, Matrix.mul_smul, smul_smul, Scalar.ofReal_mul_ofReal, trace_smul,
    smul_eq_mul]

/-- A real factor is squared in the inner product of a matrix with itself. -/
theorem innerProduct_scale_self (product : m.innerProduct m = .ok z) (c : ℝ) :
    (m.scale (.ofReal c)).innerProduct (m.scale (.ofReal c)) = .ok (.ofReal (c * c) * z) := by
  obtain ⟨p, _, a, rfl, rfl⟩ | ⟨p, _, a, wide, rfl, rfl⟩ := exists_of_innerProduct_self product
  · -- only here the factor is conjugated, and it is real
    have real : star (Scalar.ofReal c) = .ofReal c := Scalar.conjugate_ofReal c
    rw [scale_ofMatrix, innerProduct_ofMatrix, conjTranspose_smul, real, trace_smul_mul_smul]
  · rw [scale_ofMatrix, innerProduct_ofMatrix_square wide, transpose_smul, trace_smul_mul_smul]

theorem scale_scale (m : DenseMatrix (Scalar ℝ)) (c d : ℝ) :
    (m.scale (.ofReal c)).scale (.ofReal d) = m.scale (.ofReal (d * c)) := by
  cases m using ofMatrix_cases with | store a
  rw [scale_ofMatrix, scale_ofMatrix, scale_ofMatrix, smul_smul, Scalar.ofReal_mul_ofReal]

theorem scale_one (m : DenseMatrix (Scalar ℝ)) : m.scale (.ofReal 1) = m := by
  cases m using ofMatrix_cases with | store a
  rw [scale_ofMatrix]
  exact congrArg ofMatrix (one_smul (Scalar ℝ) a)

/-! ### Normalized matrices -/

/-- Dividing the parts of all cells by a number is multiplying the matrix by its inverse. -/
theorem map_div_ofNumbers (m : DenseMatrix (Scalar ℝ)) {s : ℝ} (divisor : s ≠ 0) :
    (m.ofNumbers.map fun w => ⟨w.re / number s, w.im / number s⟩) =
      (m.scale (.ofReal s⁻¹)).ofNumbers := by
  have quotient (w : Scalar ℝ) :
      (⟨number w.re / number s, number w.im / number s⟩ : Scalar PartialReal) =
        .ofNumbers (.ofReal s⁻¹ * w) := by
    rw [number_div divisor, number_div divisor, ← Scalar.dividedBy_eq_mul]
    rfl
  cases m using ofMatrix_cases with | store a
  rw [ofNumbers, ofNumbers, map_ofMatrix, map_ofMatrix, scale_ofMatrix, map_ofMatrix]
  exact congrArg ofMatrix (Matrix.ext fun i j => quotient (a i j))

/-- The squared norm decides whether a matrix can be normalized. It is divided by the root. -/
theorem normalize_ofNumbers (product : m.innerProduct m = .ok z) :
    m.ofNumbers.normalize =
      if z.re < 0 then .error (.invalidOperand (.noRealNorm m.shape))
      else if z.re = 0 then .error .divideByZero
      else .ok (m.scale (.ofReal (√z.re)⁻¹)).ofNumbers := by
  rw [normalize, norm_ofNumbers, product, Except.map]
  by_cases negative : z.re < 0
  · rw [if_pos negative, sqrt_of_neg negative]
    rfl
  · have root : √z.re = 0 ↔ z.re = 0 := Real.sqrt_eq_zero (not_lt.mp negative)
    rw [if_neg negative, sqrt_of_nonneg (not_lt.mp negative)]
    simp only [bind, Except.bind, isFinite_number, number_beq_zero, root, decide_eq_true_eq]
    by_cases zero : z.re = 0
    · rw [if_pos zero, if_pos zero]
      rfl
    · rw [if_neg zero, if_neg zero, map_div_ofNumbers m (mt root.mp zero)]
      rfl

/-- Only what is neither a column nor square has no inner product with itself. -/
theorem normalize_eq_shapeMismatch_iff :
    m.ofNumbers.normalize = .error (.shapeMismatch .innerProduct m.shape m.shape) ↔
      m.cols ≠ 1 ∧ m.rows ≠ m.cols := by
  have shapes : ¬ HaveInnerProduct m.shape m.shape ↔ m.cols ≠ 1 ∧ m.rows ≠ m.cols := by
    rw [haveInnerProduct_self_iff, not_or]
    rfl
  rw [← shapes]
  obtain ⟨fit, z, product⟩ | ⟨apart, failed⟩ := m.innerProduct_cases m
  · rw [normalize_ofNumbers product]
    refine iff_of_false ?_ (not_not.mpr fit)
    split_ifs <;> simp
  · refine iff_of_true ?_ apart
    rw [normalize, norm_ofNumbers, failed]
    rfl

/-- The two failures that tell the sign of the squared norm. -/
theorem normalize_failure_iff (product : m.innerProduct m = .ok z) :
    (m.ofNumbers.normalize = .error (.invalidOperand (.noRealNorm m.shape)) ↔ z.re < 0) ∧
      (m.ofNumbers.normalize = .error .divideByZero ↔ z.re = 0) := by
  rw [normalize_ofNumbers product]
  rcases lt_trichotomy z.re 0 with negative | zero | positive
  · simp [negative, negative.ne]
  · simp [zero]
  · simp [positive.not_gt, positive.ne']

/-- A matrix of norm one stays as it is. -/
theorem normalize_of_unit (product : m.innerProduct m = .ok z) (unit : z.re = 1) :
    m.ofNumbers.norm = .ok (.number 1) ∧ m.ofNumbers.normalize = .ok m.ofNumbers := by
  constructor
  · rw [norm_ofNumbers, product, Except.map, unit, sqrt_of_nonneg zero_le_one, Real.sqrt_one]
  · rw [normalize_ofNumbers product, unit, if_neg zero_lt_one.not_gt, if_neg one_ne_zero,
      Real.sqrt_one, inv_one, scale_one]

/-- A positive squared norm leaves a normalized matrix: its norm is one, the norm brings the matrix
    back as a factor, and normalizing once more changes nothing. -/
theorem exists_normalized (product : m.innerProduct m = .ok z) (positive : 0 < z.re) :
    ∃ b x, m.ofNumbers.normalize = .ok b ∧ m.ofNumbers.norm = .ok x ∧ b.norm = .ok (.number 1) ∧
      b.scale (.ofReal x) = m.ofNumbers ∧ b.normalize = .ok b := by
  have root : √z.re ≠ 0 := (Real.sqrt_pos.mpr positive).ne'
  have unit : (Scalar.ofReal ((√z.re)⁻¹ * (√z.re)⁻¹) * z).re = 1 := by
    rw [← mul_inv, Real.mul_self_sqrt positive.le, Scalar.re_mul, Scalar.re_ofReal,
      Scalar.im_ofReal, zero_mul, sub_zero, inv_mul_cancel₀ positive.ne']
  obtain ⟨norm, again⟩ := normalize_of_unit (innerProduct_scale_self product (√z.re)⁻¹) unit
  refine ⟨(m.scale (.ofReal (√z.re)⁻¹)).ofNumbers, .number √z.re, ?_, ?_, norm, ?_, again⟩
  · rw [normalize_ofNumbers product, if_neg positive.not_gt, if_neg positive.ne']
  · rw [norm_ofNumbers, product, Except.map, sqrt_of_nonneg positive.le]
  · calc (m.scale (.ofReal (√z.re)⁻¹)).ofNumbers.scale (.ofNumbers (.ofReal √z.re))
        = ((m.scale (.ofReal (√z.re)⁻¹)).scale (.ofReal √z.re)).ofNumbers := scale_ofNumbers _ _
      _ = m.ofNumbers := by rw [scale_scale, mul_inv_cancel₀ root, scale_one]

/-! ### Distances between columns -/

section Distance

variable {n : Nat}

theorem subtract_ofNumbers {p q : Nat} [NeZero p] [NeZero q]
    (a b : Matrix (Fin p) (Fin q) (Scalar ℝ)) :
    (ofMatrix a).ofNumbers.subtract (ofMatrix b).ofNumbers = .ok (ofMatrix (a - b)).ofNumbers := by
  rw [ofNumbers, ofNumbers, ofNumbers, map_ofMatrix, map_ofMatrix, map_ofMatrix]
  exact zipWith_ofMatrix .subtract (· - ·) (a.map Scalar.ofNumbers) (b.map Scalar.ofNumbers)

/-- Columns are as far apart as their vectors in Euclidean space. -/
theorem distance_columns [NeZero n] (v w : Matrix (Fin n) (Fin 1) (Scalar ℝ)) :
    (ofMatrix v).ofNumbers.distance (ofMatrix w).ofNumbers =
      .ok (.number ‖toVector v - toVector w‖) := by
  rw [distance, subtract_ofNumbers]
  refine (norm_column rfl).trans ?_
  rw [← norm_toVector_sq, Real.sqrt_sq (norm_nonneg _), toVector_sub]

/-- Distances between columns of one length are those of a metric. -/
theorem distance_metric {u v w : DenseMatrix (Scalar ℝ)} (first : u.shape = ⟨n, 1⟩)
    (second : v.shape = ⟨n, 1⟩) (third : w.shape = ⟨n, 1⟩) :
    ∃ x y z : ℝ, u.ofNumbers.distance v.ofNumbers = .ok (.number x) ∧
      v.ofNumbers.distance w.ofNumbers = .ok (.number y) ∧
      u.ofNumbers.distance w.ofNumbers = .ok (.number z) ∧
      0 ≤ x ∧ (x = 0 ↔ u = v) ∧ v.ofNumbers.distance u.ofNumbers = .ok (.number x) ∧
      z ≤ x + y := by
  obtain ⟨_, _, u, rfl⟩ := exists_ofMatrix first
  obtain ⟨_, _, v, rfl⟩ := exists_ofMatrix second
  obtain ⟨_, _, w, rfl⟩ := exists_ofMatrix third
  refine ⟨_, _, _, distance_columns u v, distance_columns v w, distance_columns u w,
    norm_nonneg _, ?_, ?_, norm_sub_le_norm_sub_add_norm_sub _ _ _⟩
  · rw [norm_sub_eq_zero_iff, toVector_inj, ofMatrix_inj]
  · rw [norm_sub_rev]
    exact distance_columns v u

end Distance

/-- Normalizing and distances, over the real numbers. What is neither a column nor square has no
    inner product with itself, and this is reported. For all others the real part of that product
    decides: below zero there is no real norm; zero is no divisor; and above zero a matrix of norm
    one comes out, which gives back the first one if it is multiplied by the norm of this, and which
    stays as it is when normalized again. Between columns of one length the distance is a metric. -/
theorem normalize_unit_distance_metric :
    (∀ m : DenseMatrix (Scalar ℝ),
      (m.ofNumbers.normalize = .error (.shapeMismatch .innerProduct m.shape m.shape) ↔
        m.cols ≠ 1 ∧ m.rows ≠ m.cols) ∧
      (m.cols = 1 ∨ m.rows = m.cols → ∃ z : Scalar ℝ,
        m.ofNumbers.innerProduct m.ofNumbers = .ok (.ofNumbers z) ∧
        (m.ofNumbers.normalize = .error (.invalidOperand (.noRealNorm m.shape)) ↔ z.re < 0) ∧
        (m.ofNumbers.normalize = .error .divideByZero ↔ z.re = 0) ∧
        (0 < z.re → ∃ b x, m.ofNumbers.normalize = .ok b ∧ m.ofNumbers.norm = .ok x ∧
          b.norm = .ok 1 ∧ b.scale (.ofReal x) = m.ofNumbers ∧ b.normalize = .ok b))) ∧
    ∀ (n : Nat) (u v w : DenseMatrix (Scalar ℝ)),
      u.shape = ⟨n, 1⟩ → v.shape = ⟨n, 1⟩ → w.shape = ⟨n, 1⟩ →
        ∃ x y z : ℝ, u.ofNumbers.distance v.ofNumbers = .ok (.number x) ∧
          v.ofNumbers.distance w.ofNumbers = .ok (.number y) ∧
          u.ofNumbers.distance w.ofNumbers = .ok (.number z) ∧
          0 ≤ x ∧ (x = 0 ↔ u = v) ∧ v.ofNumbers.distance u.ofNumbers = .ok (.number x) ∧
          z ≤ x + y := by
  refine ⟨fun m => ⟨normalize_eq_shapeMismatch_iff, fun shapes => ?_⟩,
    fun n u v w => distance_metric⟩
  obtain ⟨-, z, product⟩ | ⟨apart, -⟩ := m.innerProduct_cases m
  · obtain ⟨negative, zero⟩ := normalize_failure_iff product
    refine ⟨z, ?_, negative, zero, exists_normalized product⟩
    rw [innerProduct_ofNumbers, product]
    rfl
  · exact absurd (haveInnerProduct_self_iff.mpr shapes) apart

/-- A row; diagonals with a squared norm below zero, equal to zero and, in spite of an imaginary
    part, above zero; and three columns. -/
theorem normalize_unit_distance_metric_diagonal :
    let row : DenseMatrix (Scalar ℝ) := ofMatrix !![⟨1, 0⟩, ⟨2, 0⟩]
    let below : DenseMatrix (Scalar ℝ) := ofMatrix !![⟨0, 1⟩, 0; 0, 0]
    let balanced : DenseMatrix (Scalar ℝ) := ofMatrix !![⟨1, 0⟩, 0; 0, ⟨0, 1⟩]
    let above : DenseMatrix (Scalar ℝ) := ofMatrix !![⟨5, 0⟩, 0; 0, ⟨0, 3⟩]
    let u : DenseMatrix (Scalar ℝ) := ofMatrix !![⟨3, 0⟩; ⟨0, 4⟩]
    let v : DenseMatrix (Scalar ℝ) := ofMatrix !![⟨0, 0⟩; ⟨0, 0⟩]
    let w : DenseMatrix (Scalar ℝ) := ofMatrix !![⟨0, 1⟩; ⟨2, 0⟩]
    row.ofNumbers.normalize = .error (.shapeMismatch .innerProduct ⟨1, 2⟩ ⟨1, 2⟩) ∧
      below.ofNumbers.normalize = .error (.invalidOperand (.noRealNorm ⟨2, 2⟩)) ∧
      balanced.ofNumbers.normalize = .error .divideByZero ∧
      (∃ b x, above.ofNumbers.normalize = .ok b ∧ above.ofNumbers.norm = .ok x ∧ b.norm = .ok 1 ∧
        b.scale (.ofReal x) = above.ofNumbers ∧ b.normalize = .ok b) ∧
      u.shape = ⟨2, 1⟩ ∧ v.shape = ⟨2, 1⟩ ∧ w.shape = ⟨2, 1⟩ ∧
      ∃ x y z : ℝ, u.ofNumbers.distance v.ofNumbers = .ok (.number x) ∧
        v.ofNumbers.distance w.ofNumbers = .ok (.number y) ∧
        u.ofNumbers.distance w.ofNumbers = .ok (.number z) ∧ z ≤ x + y := by
  intro row below balanced above u v w
  obtain ⟨normalized, metric⟩ := normalize_unit_distance_metric
  have squaredNorm {x y z : Scalar ℝ}
      (product : (ofMatrix !![x, 0; 0, y]).ofNumbers.innerProduct
        (ofMatrix !![x, 0; 0, y]).ofNumbers = .ok (.ofNumbers z)) :
      z.re = (x * x + y * y).re := by
    rw [innerProduct_ofNumbers, innerProduct_diagonal, Except.map, Except.ok.injEq] at product
    exact (number.inj (congrArg Scalar.re product)).symm
  obtain ⟨mismatch, -⟩ := normalized row
  obtain ⟨_, ofBelow, negative, -, -⟩ := (normalized below).2 (.inr rfl)
  obtain ⟨_, ofBalanced, -, zero, -⟩ := (normalized balanced).2 (.inr rfl)
  obtain ⟨_, ofAbove, -, -, positive⟩ := (normalized above).2 (.inr rfl)
  obtain ⟨x, y, z, first, second, third, -, -, -, triangle⟩ := metric 2 u v w rfl rfl rfl
  refine ⟨mismatch.mpr ⟨by decide, by decide⟩, negative.mpr ?_, zero.mpr ?_, positive ?_, rfl, rfl,
    rfl, x, y, z, first, second, third, triangle⟩
  · rw [squaredNorm ofBelow]
    norm_num
  · rw [squaredNorm ofBalanced]
    norm_num
  · rw [squaredNorm ofAbove]
    norm_num

end QuantumAssembler.DenseMatrix
