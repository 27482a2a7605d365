import QuantumAssembler.Proofs.DenseMatrix.Shape
import QuantumAssembler.Proofs.Measurement.Unitary

/-!
Module: QuantumAssembler.Proofs.Measurement.Evolution
Purpose: The states of an evolution, one by one. Each is the initial state with the dynamics applied
  to it from the left, once more for each state, whatever the arithmetic of cells is. So a run can
  be cut anywhere and goes on from its last state. Dynamics that do not fit the state fail in the
  first step; dynamics that are not square have a result that they do not fit, and fail in the
  second one. Over exact cells the states are products with the powers of the dynamics.
Main exports: Measurement.applied, Measurement.applied_succ, Measurement.evolve_succ_eq_ok_iff,
  Measurement.exists_of_evolve, Measurement.evolve_add, Measurement.evolve_of_misfit,
  Measurement.evolve_of_uneven, Measurement.exists_evolve_iff, DenseMatrix.power,
  DenseMatrix.power_ofMatrix, Measurement.evolve_iterates
-/

namespace QuantumAssembler

universe u

namespace DenseMatrix

variable {κ : Type u}

/-- A power of a square matrix, multiplied out factor by factor. -/
def power [Zero κ] [One κ] [Add κ] [Mul κ] (m : DenseMatrix κ) :
    Nat → Except AlgebraFailure (DenseMatrix κ)
  | 0 => identity m.rows
  | n + 1 => do (← m.power n).multiply m

theorem power_ofMatrix [Semiring κ] {p : Nat} [NeZero p] (a : Matrix (Fin p) (Fin p) κ) (n : Nat) :
    (ofMatrix a).power n = .ok (ofMatrix (a ^ n)) := by
  induction n with
  | zero => rw [power, pow_zero, ← identity_eq_ofMatrix]; rfl
  | succ n ih =>
      rw [power, ih, pow_succ]
      exact multiply_ofMatrix (a ^ n) a

end DenseMatrix

namespace Measurement

open DenseMatrix

section Cells

variable {κ : Type u} [Zero κ] [Add κ] [Mul κ] {dynamics state : DenseMatrix κ}

/-! ### States one by one -/

/-- The state to which `dynamics` has been applied a number of times, each time from the left. -/
def applied (dynamics state : DenseMatrix κ) : Nat → Except AlgebraFailure (DenseMatrix κ)
  | 0 => .ok state
  | times + 1 => do dynamics.multiply (← applied dynamics state times)

/-- Instead of the last application the first one can be split off. -/
theorem applied_succ (dynamics state : DenseMatrix κ) (times : Nat) :
    applied dynamics state (times + 1) =
      (do applied dynamics (← dynamics.multiply state) times) := by
  induction times with
  | zero => exact (bind_pure (dynamics.multiply state)).symm
  | succ times ih =>
      calc applied dynamics state (times + 1 + 1)
          = applied dynamics state (times + 1) >>= dynamics.multiply := rfl
        _ = (dynamics.multiply state >>= (applied dynamics · times)) >>= dynamics.multiply := by
            rw [ih]
        _ = dynamics.multiply state >>= (applied dynamics · (times + 1)) := bind_assoc _ _ _

/-- A run of at least one step makes one step and goes on from there. -/
theorem evolve_succ_eq_ok_iff {steps : Nat} {states : List (DenseMatrix κ)} :
    evolve dynamics state (steps + 1) = .ok states ↔
      ∃ next others, dynamics.multiply state = .ok next ∧
        evolve dynamics next steps = .ok others ∧ states = next :: others := by
  rw [evolve]
  cases dynamics.multiply state with
  | error failure => simp [bind, Except.bind]
  | ok next =>
      cases run : evolve dynamics next steps with
      | error failure => simp [bind, Except.bind, run]
      | ok others => simp [bind, Except.bind, pure, Except.pure, run, eq_comm]

theorem length_of_evolve {steps : Nat} {states : List (DenseMatrix κ)}
    (run : evolve dynamics state steps = .ok states) : states.length = steps := by
  obtain ⟨-, others, runs, length, -⟩ | ⟨-, failure, failed⟩ := dynamics.evolve_cases state steps
  · cases runs.symm.trans run
    exact length
  · cases failed.symm.trans run

/-- Each state of a run is the initial one with the dynamics applied once more than the state before
    it. -/
theorem exists_of_evolve {steps k : Nat} {states : List (DenseMatrix κ)}
    (run : evolve dynamics state steps = .ok states) (within : k < steps) :
    ∃ m, states[k]? = some m ∧ applied dynamics state (k + 1) = .ok m := by
  induction steps generalizing state states k with
  | zero => exact absurd within (Nat.not_lt_zero k)
  | succ steps ih =>
      obtain ⟨next, others, made, rest, rfl⟩ := evolve_succ_eq_ok_iff.mp run
      rw [applied_succ, made]
      cases k with
      | zero => exact ⟨next, rfl, rfl⟩
      | succ k => exact ih rest (Nat.lt_of_succ_lt_succ within)

/-- A run can be cut anywhere. What is left of it starts from the last state so far. -/
theorem evolve_add (dynamics state : DenseMatrix κ) (steps more : Nat) :
    evolve dynamics state (steps + more) = (do
      let first ← evolve dynamics state steps
      let later ← evolve dynamics (first.getLast?.getD state) more
      return first ++ later) := by
  induction steps generalizing state with
  | zero =>
      rw [Nat.zero_add]
      exact (bind_pure (evolve dynamics state more)).symm
  | succ steps ih =>
      rw [Nat.succ_add, evolve, evolve]
      cases dynamics.multiply state with
      | error failure => rfl
      | ok next =>
          simp only [bind, Except.bind, ih next]
          cases evolve dynamics next steps with
          | error failure => rfl
          | ok first =>
              have last : (next :: first).getLast?.getD state = first.getLast?.getD next := by
                rw [List.getLast?_cons, Option.getD_some]
              simp only [pure, Except.pure, last]
              cases evolve dynamics (first.getLast?.getD next) more with
              | error failure => rfl
              | ok later => rfl

/-! ### Runs that fail -/

/-- Dynamics that do not fit the state cannot make the first step. -/
theorem evolve_of_misfit {steps : Nat} (some : 0 < steps)
    (misfit : dynamics.cols ≠ state.rows) :
    evolve dynamics state steps =
      .error (.shapeMismatch .multiply dynamics.shape state.shape) := by
  obtain ⟨steps, rfl⟩ := Nat.exists_eq_add_one_of_ne_zero some.ne'
  obtain ⟨fits, -⟩ | ⟨-, failed⟩ := dynamics.multiply_cases state
  · exact absurd fits misfit
  · rw [evolve, failed]
    rfl

/-- Dynamics that are not square fit the initial state at best, and cannot make the second step. -/
theorem evolve_of_uneven {steps : Nat} (many : 1 < steps) (fits : dynamics.cols = state.rows)
    (uneven : dynamics.rows ≠ dynamics.cols) :
    evolve dynamics state steps =
      .error (.shapeMismatch .multiply dynamics.shape ⟨dynamics.rows, state.cols⟩) := by
  obtain ⟨steps, rfl⟩ := Nat.exists_eq_add_one_of_ne_zero (Nat.ne_of_gt (Nat.zero_lt_of_lt many))
  obtain ⟨-, next, made, shape⟩ | ⟨apart, -⟩ := dynamics.multiply_cases state
  · have misfit : dynamics.cols ≠ next.rows := by
      rw [show next.rows = dynamics.rows from congrArg Shape.rows shape]
      exact uneven.symm
    have failed := evolve_of_misfit (Nat.lt_of_succ_lt_succ many) misfit
    rw [evolve, made, ← shape]
    exact congrArg (· >>= fun others => pure (next :: others)) failed
  · exact absurd fits apart

/-- Whether a run succeeds hangs on the shapes and on whether there is a second step. -/
theorem exists_evolve_iff {steps : Nat} :
    (∃ states, evolve dynamics state steps = .ok states) ↔
      steps = 0 ∨ dynamics.cols = state.rows ∧ (steps = 1 ∨ dynamics.rows = dynamics.cols) := by
  have condition : Evolves dynamics.shape state.shape steps ↔
      steps = 0 ∨ dynamics.cols = state.rows ∧ (steps = 1 ∨ dynamics.rows = dynamics.cols) := by
    simp only [Evolves, shape]
    omega
  rw [← condition]
  obtain ⟨evolves, states, run, -⟩ | ⟨stuck, failure, failed⟩ := dynamics.evolve_cases state steps
  · exact iff_of_true ⟨states, run⟩ evolves
  · refine iff_of_false ?_ stuck
    rintro ⟨states, run⟩
    cases failed.symm.trans run

end Cells

/-! ### Powers -/

/-- Over exact cells the states are the powers of the dynamics, multiplied by the initial state. -/
theorem exists_power_of_evolve {κ : Type u} [Semiring κ] {dynamics state : DenseMatrix κ}
    {steps k : Nat} {states : List (DenseMatrix κ)}
    (run : evolve dynamics state steps = .ok states) (square : dynamics.rows = dynamics.cols)
    (within : k < steps) :
    ∃ p m, dynamics.power (k + 1) = .ok p ∧ p.multiply state = .ok m ∧ states[k]? = some m := by
  obtain none | ⟨fits, -⟩ := exists_evolve_iff.mp ⟨states, run⟩
  · omega
  obtain ⟨p, _, a, rfl⟩ := exists_of_square square
  cases state using ofMatrix_cases with | @store r q _ _ v
  obtain rfl : p = r := fits
  cases (evolve_ofMatrix a v steps).symm.trans run
  refine ⟨_, _, power_ofMatrix a (k + 1), multiply_ofMatrix (a ^ (k + 1)) v, ?_⟩
  simp [within]

/-- An evolution is the iteration of its dynamics. For every arithmetic of cells it succeeds exactly
    if there is no step, or the dynamics fit the state and are square where there is a second step;
    it fails in the first step that the shapes do not allow. There is one state for each step, the
    initial one with the dynamics applied so many times from the left, and a run goes on where a
    shorter one ended. Over exact parts the states are the products of the powers of square dynamics
    with the initial state. -/
theorem evolve_iterates :
    (∀ (κ : Type u) [Zero κ] [Add κ] [Mul κ] (dynamics state : DenseMatrix κ) (steps : Nat),
      ((∃ states, evolve dynamics state steps = .ok states) ↔
        steps = 0 ∨ dynamics.cols = state.rows ∧ (steps = 1 ∨ dynamics.rows = dynamics.cols)) ∧
      (0 < steps → dynamics.cols ≠ state.rows →
        evolve dynamics state steps =
          .error (.shapeMismatch .multiply dynamics.shape state.shape)) ∧
      (1 < steps → dynamics.cols = state.rows → dynamics.rows ≠ dynamics.cols →
        evolve dynamics state steps =
          .error (.shapeMismatch .multiply dynamics.shape ⟨dynamics.rows, state.cols⟩)) ∧
      (∀ states, evolve dynamics state steps = .ok states →
        states.length = steps ∧
        ∀ k < steps, ∃ m, states[k]? = some m ∧ applied dynamics state (k + 1) = .ok m) ∧
      ∀ more, evolve dynamics state (steps + more) = (do
        let first ← evolve dynamics state steps
        let later ← evolve dynamics (first.getLast?.getD state) more
        return first ++ later)) ∧
    ∀ (α : Type u) [CommRing α] (dynamics state : DenseMatrix (Scalar α)) (steps : Nat),
      dynamics.rows = dynamics.cols → ∀ states, evolve dynamics state steps = .ok states →
        ∀ k < steps, ∃ p m, dynamics.power (k + 1) = .ok p ∧ p.multiply state = .ok m ∧
          states[k]? = some m := by
  constructor
  · intro κ _ _ _ dynamics state steps
    refine ⟨exists_evolve_iff, evolve_of_misfit, evolve_of_uneven, ?_,
      evolve_add dynamics state steps⟩
    intro states run
    exact ⟨length_of_evolve run, fun k => exists_of_evolve run⟩
  · intro α _ dynamics state steps square states run k
    exact exists_power_of_evolve run square

/-- Three steps of a square matrix; a row, which fails in the second step; and a column, which
    cannot make the first one. -/
theorem evolve_iterates_shear :
    let dynamics : DenseMatrix (Scalar ℤ) :=
      ⟨2, 2, #[⟨0, 1⟩, ⟨1, 0⟩, ⟨0, 0⟩, ⟨1, 1⟩], by decide, by decide, rfl⟩
    let row : DenseMatrix (Scalar ℤ) := ⟨1, 2, #[⟨1, 2⟩, ⟨0, -1⟩], by decide, by decide, rfl⟩
    let state : DenseMatrix (Scalar ℤ) := ⟨2, 1, #[⟨3, 0⟩, ⟨1, 1⟩], by decide, by decide, rfl⟩
    dynamics.rows = dynamics.cols ∧ row.cols = state.rows ∧ row.rows ≠ row.cols ∧
      state.cols ≠ state.rows ∧
      (∃ states, evolve dynamics state 3 = .ok states ∧ states.length = 3 ∧
        (∃ m, states[2]? = some m ∧ applied dynamics state 3 = .ok m) ∧
        ∃ p m, dynamics.power 3 = .ok p ∧ p.multiply state = .ok m ∧ states[2]? = some m) ∧
      evolve row state 2 = .error (.shapeMismatch .multiply ⟨1, 2⟩ ⟨1, 1⟩) ∧
      evolve state state 1 = .error (.shapeMismatch .multiply ⟨2, 1⟩ ⟨2, 1⟩) := by
  intro dynamics row state
  obtain ⟨run, powers⟩ := evolve_iterates
  obtain ⟨succeeds, -, -, one, -⟩ := run (Scalar ℤ) dynamics state 3
  obtain ⟨states, made⟩ := succeeds.mpr (.inr ⟨rfl, .inr rfl⟩)
  obtain ⟨length, each⟩ := one states made
  obtain ⟨-, -, uneven, -⟩ := run (Scalar ℤ) row state 2
  obtain ⟨-, misfit, -⟩ := run (Scalar ℤ) state state 1
  exact ⟨rfl, rfl, by decide, by decide,
    ⟨states, made, length, each 2 (by decide),
      powers ℤ dynamics state 3 rfl states made 2 (by decide)⟩,
    uneven (by decide) rfl (by decide), misfit (by decide) (by decide)⟩

end Measurement

end QuantumAssembler
