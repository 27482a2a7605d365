import QuantumAssembler.Proofs.DenseMatrix.Hermitian

/-!
Module: QuantumAssembler.Proofs.Measurement.Expectation
Purpose: Observables and their mean values. An observable has to be square, as wide as the state is
  long, and Hermitian; these are asked for in this order, and the first that fails is reported. A
  Hermitian matrix can be moved from one side of an inner product to the other, so that the inner
  product of a state with the observed state is its own conjugate. Over exact parts without
  2-torsion it is then a real number, and the mean value, which is its real part, is all of it.
Main exports: Measurement.observe_of_uneven, Measurement.observe_of_misfit,
  Measurement.observe_of_skew, Measurement.observe_of_hermitian, Measurement.conditions_of_observe,
  Measurement.exists_of_observe, Measurement.trace_observed, Measurement.trace_eq_ofReal,
  Measurement.expectedValue_ofMatrix, Measurement.expectedValue_add, Measurement.expectedValue_real
-/

namespace QuantumAssembler.Measurement

universe u

open Matrix DenseMatrix

variable {α : Type u}

/-! ### What is asked of an observable -/

section Conditions

theorem fits_iff {state observable : DenseMatrix (Scalar α)} :
    (state.isColumn && state.rows == observable.cols) = true ↔
      state.shape = ⟨observable.cols, 1⟩ := by
  rw [Bool.and_eq_true, isColumn, beq_iff_eq, beq_iff_eq, shape, Shape.mk.injEq, and_comm]

variable [Zero α] [Add α] [Neg α] [Sub α] [Mul α] [BEq α]
  {state observable : DenseMatrix (Scalar α)}

theorem observe_of_uneven (uneven : observable.rows ≠ observable.cols) :
    observe state observable = .error (.notSquare observable.shape) := by
  have refused : observable.isSquare = false := beq_false_of_ne uneven
  rw [observe, refused]
  rfl

theorem observe_of_misfit (square : observable.rows = observable.cols)
    (misfit : state.shape ≠ ⟨observable.cols, 1⟩) :
    observe state observable =
      .error (.shapeMismatch .observe ⟨observable.cols, 1⟩ state.shape) := by
  have passed : observable.isSquare = true := beq_iff_eq.mpr square
  have refused : (state.isColumn && state.rows == observable.cols) = false :=
    Bool.eq_false_iff.mpr (mt fits_iff.mp misfit)
  rw [observe, passed, refused]
  rfl

/-- The mean value fails in the same way as the observation. -/
theorem expectedValue_of_error {failure : AlgebraFailure}
    (failed : observe state observable = .error failure) :
    expectedValue state observable = .error failure := by
  rw [expectedValue, failed]
  rfl

/-- There is a mean value only where there is an observation. -/
theorem exists_of_expectedValue {e : α} (made : expectedValue state observable = .ok e) :
    ∃ m, observe state observable = .ok m := by
  cases observed : observe state observable with
  | error failure => cases (expectedValue_of_error observed).symm.trans made
  | ok m => exact ⟨m, rfl⟩

variable [LawfulBEq α]

theorem observe_of_skew (square : observable.rows = observable.cols)
    (fits : state.shape = ⟨observable.cols, 1⟩) (skew : observable.adjoint ≠ observable) :
    observe state observable = .error (.invalidOperand .notHermitian) := by
  have passed : observable.isSquare = true := beq_iff_eq.mpr square
  have refused : observable.isHermitian = false :=
    Bool.eq_false_iff.mpr fun hermitian => skew (isHermitian_iff.mp hermitian).2
  rw [observe, passed, fits_iff.mpr fits, refused]
  rfl

/-- An observable that meets all conditions is multiplied by the state. -/
theorem observe_of_hermitian (square : observable.rows = observable.cols)
    (fits : state.shape = ⟨observable.cols, 1⟩) (self : observable.adjoint = observable) :
    observe state observable = observable.multiply state := by
  have passed : observable.isSquare = true := beq_iff_eq.mpr square
  rw [observe, passed, fits_iff.mpr fits, isHermitian_iff.mpr ⟨square, self⟩]
  rfl

/-- Only an observable that meets all conditions is applied. -/
theorem conditions_of_observe {m : DenseMatrix (Scalar α)}
    (made : observe state observable = .ok m) :
    observable.rows = observable.cols ∧ state.shape = ⟨observable.cols, 1⟩ ∧
      observable.adjoint = observable := by
  by_cases square : observable.rows = observable.cols
  · by_cases fits : state.shape = ⟨observable.cols, 1⟩
    · by_cases self : observable.adjoint = observable
      · exact ⟨square, fits, self⟩
      · cases (observe_of_skew square fits self).symm.trans made
    · cases (observe_of_misfit square fits).symm.trans made
  · cases (observe_of_uneven square).symm.trans made

end Conditions

/-! ### Mean values -/

section Exact

variable [CommRing α] {n : Nat} {a b : Matrix (Fin n) (Fin n) (Scalar α)}

/-- A Hermitian matrix goes from the right side of an inner product to the left. -/
theorem trace_observed (hermitian : a.IsHermitian) (x : Matrix (Fin n) (Fin 1) (Scalar α)) :
    ((a * x)ᴴ * x).trace = (xᴴ * (a * x)).trace := by
  rw [conjTranspose_mul, hermitian.eq, Matrix.mul_assoc]

/-- Without 2-torsion, what is its own conjugate has no imaginary part. -/
theorem im_eq_zero_of_conjugate_eq (torsionFree : ∀ t : α, t + t = 0 → t = 0) {z : Scalar α}
    (self : z.conjugate = z) : z.im = 0 := by
  have negated : -z.im = z.im := congrArg Scalar.im self
  refine torsionFree z.im ?_
  calc z.im + z.im = -z.im + z.im := by rw [negated]
    _ = 0 := neg_add_cancel z.im

/-- The inner product of a state with the observed state is a real number. -/
theorem trace_eq_ofReal (torsionFree : ∀ t : α, t + t = 0 → t = 0) (hermitian : a.IsHermitian)
    (x : Matrix (Fin n) (Fin 1) (Scalar α)) :
    (xᴴ * (a * x)).trace = .ofReal (xᴴ * (a * x)).trace.re := by
  have self : (xᴴ * (a * x)).trace.conjugate = (xᴴ * (a * x)).trace :=
    calc (xᴴ * (a * x)).trace.conjugate = ((a * x)ᴴ * x).trace := (trace_exchange (a * x) x).symm
      _ = (xᴴ * (a * x)).trace := trace_observed hermitian x
  exact Scalar.ext rfl (im_eq_zero_of_conjugate_eq torsionFree self)

variable [BEq α] [LawfulBEq α] [NeZero n]

theorem observe_ofMatrix (hermitian : a.IsHermitian) (x : Matrix (Fin n) (Fin 1) (Scalar α)) :
    observe (ofMatrix x) (ofMatrix a) = .ok (ofMatrix (a * x)) := by
  obtain ⟨square, self⟩ := isHermitian_iff.mp ((isHermitian_ofMatrix a).mpr hermitian)
  rw [observe_of_hermitian square rfl self, multiply_ofMatrix]

/-- What is observed is a column, by a Hermitian matrix of its length. -/
theorem exists_of_observe {state observable m : DenseMatrix (Scalar α)}
    (made : observe state observable = .ok m) :
    ∃ (n : Nat) (_ : NeZero n) (a : Matrix (Fin n) (Fin n) (Scalar α))
      (x : Matrix (Fin n) (Fin 1) (Scalar α)),
      a.IsHermitian ∧ observable = ofMatrix a ∧ state = ofMatrix x ∧ m = ofMatrix (a * x) := by
  obtain ⟨square, fits, self⟩ := conditions_of_observe made
  obtain ⟨n, _, a, hermitian, rfl⟩ := exists_of_isHermitian (isHermitian_iff.mpr ⟨square, self⟩)
  obtain ⟨_, _, x, rfl⟩ := exists_ofMatrix (p := n) fits
  cases (observe_ofMatrix hermitian x).symm.trans made
  exact ⟨n, inferInstance, a, x, hermitian, rfl, rfl, rfl⟩

theorem expectedValue_ofMatrix (hermitian : a.IsHermitian)
    (x : Matrix (Fin n) (Fin 1) (Scalar α)) :
    expectedValue (ofMatrix x) (ofMatrix a) = .ok (xᴴ * (a * x)).trace.re := by
  rw [expectedValue, observe_ofMatrix hermitian]
  exact congrArg (·.map Scalar.re) (innerProduct_ofMatrix x (a * x))

/-- The mean value of a sum of observables is the sum of their mean values. -/
theorem expectedValue_add {state observable other : DenseMatrix (Scalar α)} {e f : α}
    (first : expectedValue state observable = .ok e) (second : expectedValue state other = .ok f) :
    ∃ sum, observable.add other = .ok sum ∧ expectedValue state sum = .ok (e + f) := by
  obtain ⟨m, observed⟩ := exists_of_expectedValue first
  obtain ⟨r, observedToo⟩ := exists_of_expectedValue second
  obtain ⟨n, _, a, x, left, rfl, rfl, -⟩ := exists_of_observe observed
  obtain ⟨k, _, b, y, right, rfl, same, -⟩ := exists_of_observe observedToo
  obtain rfl : n = k := congrArg rows same
  obtain rfl : x = y := ofMatrix_inj.mp same
  cases (expectedValue_ofMatrix left x).symm.trans first
  cases (expectedValue_ofMatrix right x).symm.trans second
  refine ⟨ofMatrix (a + b), add_ofMatrix a b, ?_⟩
  rw [expectedValue_ofMatrix (left.add right), Matrix.add_mul, Matrix.mul_add, trace_add,
    Scalar.re_add]

end Exact

/-- Observables and their mean values, over exact parts without 2-torsion. An observable is applied
    exactly if it is square, as wide as the state is long, and its own adjoint; of the conditions
    that fail the first one is reported, for the mean value as well. Where it is applied, the inner
    products of the state with the observed state on either side are the mean value, with no
    imaginary part; and the mean values of two observables add up to that of their sum. -/
theorem expectedValue_real {α : Type u} [CommRing α] [BEq α] [LawfulBEq α]
    (torsionFree : ∀ t : α, t + t = 0 → t = 0) (state observable : DenseMatrix (Scalar α)) :
    ((∃ m, observe state observable = .ok m) ↔
      observable.rows = observable.cols ∧ state.shape = ⟨observable.cols, 1⟩ ∧
        observable.adjoint = observable) ∧
    (observable.rows ≠ observable.cols →
      observe state observable = .error (.notSquare observable.shape)) ∧
    (observable.rows = observable.cols → state.shape ≠ ⟨observable.cols, 1⟩ →
      observe state observable =
        .error (.shapeMismatch .observe ⟨observable.cols, 1⟩ state.shape)) ∧
    (observable.rows = observable.cols → state.shape = ⟨observable.cols, 1⟩ →
      observable.adjoint ≠ observable →
        observe state observable = .error (.invalidOperand .notHermitian)) ∧
    (∀ failure, observe state observable = .error failure →
      expectedValue state observable = .error failure) ∧
    ∀ m, observe state observable = .ok m →
      observable.multiply state = .ok m ∧
      ∃ e, expectedValue state observable = .ok e ∧ state.innerProduct m = .ok (.ofReal e) ∧
        m.innerProduct state = .ok (.ofReal e) ∧
        ∀ other f, expectedValue state other = .ok f →
          ∃ sum, observable.add other = .ok sum ∧ expectedValue state sum = .ok (e + f) := by
  refine ⟨⟨?_, ?_⟩, observe_of_uneven, observe_of_misfit, observe_of_skew,
    fun failure => expectedValue_of_error, ?_⟩
  · rintro ⟨m, made⟩
    exact conditions_of_observe made
  · rintro ⟨square, fits, self⟩
    obtain ⟨-, m, made, -⟩ | ⟨apart, -⟩ := observable.multiply_cases state
    · exact ⟨m, (observe_of_hermitian square fits self).trans made⟩
    · exact absurd (congrArg Shape.rows fits).symm apart
  · intro m made
    obtain ⟨n, _, a, x, hermitian, rfl, rfl, rfl⟩ := exists_of_observe made
    have mean := expectedValue_ofMatrix hermitian x
    have real := trace_eq_ofReal torsionFree hermitian x
    refine ⟨multiply_ofMatrix a x, _, mean, ?_, ?_, fun other f => expectedValue_add mean⟩
    · rw [innerProduct_ofMatrix, ← real]
    · rw [innerProduct_ofMatrix, trace_observed hermitian, ← real]

/-- Two observables on one state of complex integers, one that is not its own adjoint, one that is
    not square, and a state that is too long. -/
theorem expectedValue_real_integers :
    let state : DenseMatrix (Scalar ℤ) := ⟨2, 1, #[⟨1, 2⟩, ⟨0, -1⟩], by decide, by decide, rfl⟩
    let long : DenseMatrix (Scalar ℤ) := ⟨3, 1, #[1, 0, 0], by decide, by decide, rfl⟩
    let a : DenseMatrix (Scalar ℤ) :=
      ⟨2, 2, #[⟨2, 0⟩, ⟨1, -1⟩, ⟨1, 1⟩, ⟨3, 0⟩], by decide, by decide, rfl⟩
    let b : DenseMatrix (Scalar ℤ) :=
      ⟨2, 2, #[⟨0, 0⟩, ⟨0, -1⟩, ⟨0, 1⟩, ⟨-2, 0⟩], by decide, by decide, rfl⟩
    let skew : DenseMatrix (Scalar ℤ) := ⟨2, 2, #[0, 1, 0, 0], by decide, by decide, rfl⟩
    let wide : DenseMatrix (Scalar ℤ) := ⟨2, 3, #[0, 0, 0, 0, 0, 0], by decide, by decide, rfl⟩
    (∀ t : ℤ, t + t = 0 → t = 0) ∧ state.shape = ⟨2, 1⟩ ∧ a.adjoint = a ∧ skew.adjoint ≠ skew ∧
      (∃ m, observe state a = .ok m ∧ expectedValue state a = .ok 7 ∧
        state.innerProduct m = .ok (.ofReal 7) ∧ m.innerProduct state = .ok (.ofReal 7)) ∧
      expectedValue state b = .ok (-4) ∧
      (∃ sum, a.add b = .ok sum ∧ expectedValue state sum = .ok (7 + -4)) ∧
      observe state skew = .error (.invalidOperand .notHermitian) ∧
      observe state wide = .error (.notSquare ⟨2, 3⟩) ∧
      observe long a = .error (.shapeMismatch .observe ⟨2, 1⟩ ⟨3, 1⟩) := by
  intro state long a b skew wide
  have torsionFree : ∀ t : ℤ, t + t = 0 → t = 0 := by omega
  have hermitian : a.isHermitian = true := by decide +kernel
  have notHermitian : ¬ skew.isHermitian = true := by decide +kernel
  have self : a.adjoint = a := (isHermitian_iff.mp hermitian).2
  have apart : skew.adjoint ≠ skew := fun same => notHermitian (isHermitian_iff.mpr ⟨rfl, same⟩)
  have first : expectedValue state a = .ok 7 := by decide +kernel
  have second : expectedValue state b = .ok (-4) := by decide +kernel
  obtain ⟨applied, -, -, -, -, mean⟩ := expectedValue_real torsionFree state a
  obtain ⟨m, made⟩ := applied.mpr ⟨rfl, rfl, self⟩
  obtain ⟨-, e, known, left, right, sums⟩ := mean m made
  cases known.symm.trans first
  obtain ⟨-, -, -, refused, -⟩ := expectedValue_real torsionFree state skew
  obtain ⟨-, uneven, -⟩ := expectedValue_real torsionFree state wide
  obtain ⟨-, -, misfit, -⟩ := expectedValue_real torsionFree long a
  exact ⟨torsionFree, rfl, self, apart, ⟨m, made, first, left, right⟩, second, sums b (-4) second,
    refused rfl rfl apart, uneven (by decide), misfit rfl (by decide)⟩

end QuantumAssembler.Measurement
