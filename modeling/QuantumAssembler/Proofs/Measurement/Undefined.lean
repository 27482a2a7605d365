import QuantumAssembler.Measurement
import QuantumAssembler.Proofs.Decimal.Undefined
import QuantumAssembler.Proofs.DenseMatrix.Shape

/-!
Module: QuantumAssembler.Proofs.Measurement.Undefined
Purpose: Norms that are no numbers, in doubles. The norm of a square matrix is the root of a double
  that can be below zero. Normalizing such a matrix and taking its probabilities are refused. The
  amplitude of a transition is not: the product of the norms is compared with zero only, and what is
  no number does not equal zero, so both parts of the amplitude come out as no numbers. Where the
  parts of an amplitude are numbers, both squared norms are above zero.
Main exports: Scalar.IsUndefined, Scalar.divide_of_isNaN, DenseMatrix.innerProduct_squares,
  Measurement.transitionAmplitude_guards_iff, Measurement.transitionAmplitude_guards_zero_only
-/

namespace QuantumAssembler

open Decimal

namespace Scalar

/-- Whether neither part is a number. -/
def IsUndefined (z : Scalar Float) : Prop :=
  z.re.isNaN = true ∧ z.im.isNaN = true

/-- A quotient by what is no number is made all the same. -/
theorem divide_of_isNaN {x : Float} (undefined : x.isNaN = true) (z : Scalar Float) :
    ∃ a, z.divide (.ofReal x) = .ok a ∧ a.IsUndefined := by
  have denominator : (ofReal x).squaredModulus.isNaN = true :=
    isNaN_add_left (isNaN_mul_left undefined x) _
  refine ⟨_, if_neg ?_, isNaN_div_right _ denominator, isNaN_div_right _ denominator⟩
  rw [beq_zero_of_isNaN denominator]
  exact Bool.false_ne_true

theorem divide_of_beq_zero {x : Float} (zero : (x == 0) = true) (z : Scalar Float) :
    z.divide (.ofReal x) = .error .divideByZero := by
  have none : ((0 : Float) == 0) = true := rfl
  exact if_pos (add_of_beq_zero (mul_self_of_beq_zero zero) (mul_self_of_beq_zero none))

end Scalar

namespace DenseMatrix

variable {n : Nat} {v w : DenseMatrix (Scalar Float)}

/-- Two squares of one size have an inner product; nothing is conjugated in it if there is more than
    one row. -/
theorem innerProduct_squares (first : v.shape = ⟨n, n⟩) (second : w.shape = ⟨n, n⟩) :
    ∃ p, v.innerProduct w = .ok p ∧ (n ≠ 1 → (do (← v.transpose.multiply w).trace) = .ok p) := by
  have fit : HaveInnerProduct v.shape w.shape := by
    rw [first, second]
    exact .inr ⟨rfl, rfl⟩
  obtain ⟨-, p, product⟩ | ⟨apart, -⟩ := v.innerProduct_cases w
  · refine ⟨p, product, fun wide => ?_⟩
    have cols : v.cols = n := congrArg Shape.cols first
    have rows : v.rows = n := congrArg Shape.rows first
    have columns : ¬ (v.isColumn && w.isColumn) = true := by
      simp [isColumn, cols, wide]
    have squares : v.isSquare = true ∧ v.shape = w.shape :=
      ⟨by simp [isSquare, rows, cols], first.trans second.symm⟩
    rw [← product, innerProduct, if_neg columns, if_pos squares]
  · exact absurd fit apart

theorem norm_of_innerProduct {p : Scalar Float} (product : v.innerProduct v = .ok p) :
    v.norm = .ok p.re.sqrt := by
  rw [norm, product]
  rfl

end DenseMatrix

namespace Measurement

open DenseMatrix

variable {n : Nat} {v w : DenseMatrix (Scalar Float)}

section Amplitudes

variable {p q : Scalar Float} (start : v.innerProduct v = .ok p) (finish : w.innerProduct w = .ok q)
include start finish

/-- The amplitude is a quotient by the product of two roots. -/
theorem transitionAmplitude_of_innerProducts {r : Scalar Float}
    (product : v.innerProduct w = .ok r) :
    transitionAmplitude v w = r.divide (.ofReal (p.re.sqrt * q.re.sqrt)) := by
  rw [transitionAmplitude, product, norm_of_innerProduct start, norm_of_innerProduct finish]
  rfl

/-- An amplitude of numbers is divided by norms whose squares are above zero. -/
theorem zero_lt_of_transitionAmplitude {a : Scalar Float}
    (made : transitionAmplitude v w = .ok a) : 0 < p.re ∧ 0 < q.re ∨ a.IsUndefined := by
  cases product : v.innerProduct w with
  | error failure =>
      rw [transitionAmplitude, product] at made
      cases made
  | ok r =>
      rw [transitionAmplitude_of_innerProducts start finish product] at made
      by_cases undefined : (p.re.sqrt * q.re.sqrt).isNaN = true
      · obtain ⟨b, quotient, none⟩ := r.divide_of_isNaN undefined
        obtain rfl : b = a := Except.ok.inj (quotient.symm.trans made)
        exact .inr none
      · refine .inl (zero_lt_of_sqrt_mul_sqrt undefined fun zero => ?_)
        cases made.symm.trans (r.divide_of_beq_zero zero)

/-- A norm that is no number is divided by like any other. -/
theorem exists_transitionAmplitude_of_rootless {r : Scalar Float}
    (product : v.innerProduct w = .ok r) (rootless : Rootless p.re ∨ Rootless q.re) :
    ∃ a, transitionAmplitude v w = .ok a ∧ a.IsUndefined := by
  rw [transitionAmplitude_of_innerProducts start finish product]
  apply Scalar.divide_of_isNaN
  rcases rootless with rootless | rootless
  · exact isNaN_mul_left (isNaN_sqrt rootless) q.re.sqrt
  · exact isNaN_mul_right p.re.sqrt (isNaN_sqrt rootless)

/-- For finite squared norms, that there is an amplitude tells that both are above zero exactly if
    neither is below zero. -/
theorem transitionAmplitude_guards_iff {r : Scalar Float} (product : v.innerProduct w = .ok r)
    (finite : p.re.isFinite = true) (finiteToo : q.re.isFinite = true) :
    (∀ a, transitionAmplitude v w = .ok a → 0 < p.re ∧ 0 < q.re) ↔ ¬ p.re < 0 ∧ ¬ q.re < 0 := by
  constructor
  · intro guards
    have leaks := exists_transitionAmplitude_of_rootless start finish product
    constructor
    · intro negative
      obtain ⟨a, made, -⟩ := leaks (.inl (.inl negative))
      exact not_lt_zero_of_zero_lt (guards a made).1 negative
    · intro negative
      obtain ⟨a, made, -⟩ := leaks (.inr (.inl negative))
      exact not_lt_zero_of_zero_lt (guards a made).2 negative
  · rintro ⟨nonneg, nonnegToo⟩ a made
    rw [transitionAmplitude_of_innerProducts start finish product] at made
    rcases sqrt_mul_sqrt_cases finite finiteToo nonneg nonnegToo with above | zero
    · exact above
    · cases made.symm.trans (r.divide_of_beq_zero zero)

end Amplitudes

/-- Normalizing and taking probabilities refuse a norm that is no number. -/
theorem refused_of_rootless {p : Scalar Float} (product : v.innerProduct v = .ok p)
    (rootless : Rootless p.re) :
    v.normalize = .error (.invalidOperand (.noRealNorm v.shape)) ∧
      probabilities v = .error (.invalidOperand .noRealSquaredNorm) := by
  have undefined : p.re.sqrt.isNaN = true := isNaN_sqrt rootless
  constructor
  · have refused : (!SquareRoot.isFinite p.re.sqrt) = true :=
      congrArg not (isFinite_of_isNaN undefined)
    rw [DenseMatrix.normalize, norm_of_innerProduct product]
    exact if_pos refused
  · have refused : (!SquareRoot.isFinite (p.re.sqrt * p.re.sqrt)) = true :=
      congrArg not (isFinite_of_isNaN (isNaN_mul_left undefined _))
    rw [probabilities, norm_of_innerProduct product]
    exact if_pos refused

/-- Amplitudes between squares of one size, in doubles. The squared norm of a square of more than
    one row is the real part of the trace of its product, transposed, with itself. For finite
    squared norms, that there is an amplitude tells that both are above zero exactly if neither is
    below zero. If one is below zero or no number, there is an amplitude all the same, and its parts
    are no numbers; normalizing and taking probabilities refuse such an operand. An amplitude of
    numbers always tells that both squared norms are above zero. -/
theorem transitionAmplitude_guards_zero_only (first : v.shape = ⟨n, n⟩)
    (second : w.shape = ⟨n, n⟩) :
    ∃ p q : Scalar Float, v.innerProduct v = .ok p ∧ w.innerProduct w = .ok q ∧
      (n ≠ 1 → (do (← v.transpose.multiply v).trace) = .ok p ∧
        (do (← w.transpose.multiply w).trace) = .ok q) ∧
      (p.re.isFinite = true → q.re.isFinite = true →
        ((∀ a, transitionAmplitude v w = .ok a → 0 < p.re ∧ 0 < q.re) ↔
          ¬ p.re < 0 ∧ ¬ q.re < 0)) ∧
      (Rootless p.re ∨ Rootless q.re →
        ∃ a, transitionAmplitude v w = .ok a ∧ a.IsUndefined) ∧
      (Rootless p.re → v.normalize = .error (.invalidOperand (.noRealNorm v.shape)) ∧
        probabilities v = .error (.invalidOperand .noRealSquaredNorm)) ∧
      ∀ a, transitionAmplitude v w = .ok a → 0 < p.re ∧ 0 < q.re ∨ a.IsUndefined := by
  obtain ⟨p, start, trace⟩ := innerProduct_squares first first
  obtain ⟨q, finish, traceToo⟩ := innerProduct_squares second second
  obtain ⟨r, product, -⟩ := innerProduct_squares first second
  exact ⟨p, q, start, finish, fun wide => ⟨trace wide, traceToo wide⟩,
    transitionAmplitude_guards_iff start finish product,
    exists_transitionAmplitude_of_rootless start finish product, refused_of_rootless start,
    fun a => zero_lt_of_transitionAmplitude start finish⟩

/-- The imaginary unit in one corner: the operand is refused where it is normalized, and not where
    its amplitude is taken. -/
theorem transitionAmplitude_guards_zero_only_unit :
    let v : DenseMatrix (Scalar Float) := ⟨2, 2, #[.unit, 0, 0, 0], by decide, by decide, rfl⟩
    let w : DenseMatrix (Scalar Float) := diagonal 2 (by decide)
    v.shape = ⟨2, 2⟩ ∧ w.shape = ⟨2, 2⟩ ∧ (∃ a, transitionAmplitude v w = .ok a ∧ a.IsUndefined) ∧
      v.normalize = .error (.invalidOperand (.noRealNorm ⟨2, 2⟩)) := by
  intro v w
  have radicand : (v.innerProduct v).map (fun p => decide (p.re < 0)) = .ok true := by
    decide +kernel
  obtain ⟨p, q, start, -, -, -, unguarded, guarded, -⟩ :=
    transitionAmplitude_guards_zero_only (v := v) (w := w) rfl rfl
  rw [start] at radicand
  have rootless : Rootless p.re := .inl (of_decide_eq_true (Except.ok.inj radicand))
  exact ⟨rfl, rfl, unguarded (.inl rootless), (guarded rootless).1⟩

/-- An amplitude that is divided by the root of minus one: it is made, and its parts are no numbers.
    -/
theorem transitionAmplitude_of_negative :
    let v : DenseMatrix (Scalar Float) := ⟨2, 2, #[.unit, 0, 0, 0], by decide, by decide, rfl⟩
    let w : DenseMatrix (Scalar Float) := diagonal 2 (by decide)
    (∀ i j : Fin 2, (v.entry i j).re.isFinite = true ∧ (v.entry i j).im.isFinite = true ∧
        (w.entry i j).re.isFinite = true ∧ (w.entry i j).im.isFinite = true) ∧
      (do return (← (← v.transpose.multiply v).trace).re) = .ok (-1) ∧
      ¬ (0 : Float) < -1 ∧ (-1 : Float) < 0 ∧
      ∃ a, transitionAmplitude v w = .ok a ∧ a.IsUndefined := by
  intro v w
  have made : (transitionAmplitude v w).map (fun a => (a.re.isNaN, a.im.isNaN)) =
      .ok (true, true) := by
    decide +kernel
  refine ⟨by decide +kernel, by decide +kernel, by decide +kernel, by decide +kernel, ?_⟩
  cases amplitude : transitionAmplitude v w with
  | error failure =>
      rw [amplitude] at made
      cases made
  | ok a =>
      rw [amplitude] at made
      exact ⟨a, rfl, Prod.mk.inj (Except.ok.inj made)⟩

end Measurement

end QuantumAssembler
