import QuantumAssembler.GateMatrix
import QuantumAssembler.Measurement
import QuantumAssembler.Proofs.DenseMatrix.Storage

/-!
Module: QuantumAssembler.Proofs.DenseMatrix.Shape
Purpose: The shapes of matrices. Whether an operation that asks for fitting shapes succeeds hangs on
  the shapes alone, and so does the shape of its result. What comes out of an operation that judges
  scalars as well still has a shape that is known beforehand.
Main exports: DenseMatrix.zipWith_cases, DenseMatrix.multiply_cases, DenseMatrix.trace_cases,
  DenseMatrix.evolve_cases, DenseMatrix.innerProduct_cases, DenseMatrix.cell?_tensor,
  DenseMatrix.shape_of_observe, DenseMatrix.shape_of_normalize, DenseMatrix.shape_of_probabilities
-/

namespace QuantumAssembler

universe u

namespace DenseMatrix

/-! ### Operations that ask for shapes -/

section Cells

variable {κ : Type u}

theorem shape_eq_iff {a b : DenseMatrix κ} :
    a.shape = b.shape ↔ a.rows = b.rows ∧ a.cols = b.cols := by
  simp [shape]

/-- Matrices are combined cell by cell if they have the same shape, and then this is the shape of
    what comes out. -/
theorem zipWith_cases (operation : Operation) (f : κ → κ → κ) (a b : DenseMatrix κ) :
    (a.shape = b.shape ∧ ∃ m, zipWith operation f a b = .ok m ∧ m.shape = a.shape) ∨
      (a.shape ≠ b.shape ∧
        zipWith operation f a b = .error (.shapeMismatch operation a.shape b.shape)) := by
  by_cases same : a.rows = b.rows ∧ a.cols = b.cols
  · exact .inl ⟨shape_eq_iff.mpr same, _, dif_pos same, rfl⟩
  · exact .inr ⟨fun equal => same (shape_eq_iff.mp equal), dif_neg same⟩

/-- Matrices are multiplied if the left one is as wide as the right one is high. -/
theorem multiply_cases [Zero κ] [Add κ] [Mul κ] (a b : DenseMatrix κ) :
    (a.cols = b.rows ∧ ∃ m, a.multiply b = .ok m ∧ m.shape = ⟨a.rows, b.cols⟩) ∨
      (a.cols ≠ b.rows ∧
        a.multiply b = .error (.shapeMismatch .multiply a.shape b.shape)) := by
  by_cases fits : a.cols = b.rows
  · exact .inl ⟨fits, _, dif_pos fits, rfl⟩
  · exact .inr ⟨fits, dif_neg fits⟩

/-- Square matrices have a trace. -/
theorem trace_cases [Zero κ] [Add κ] (m : DenseMatrix κ) :
    (m.rows = m.cols ∧ ∃ z, m.trace = .ok z) ∨
      (m.rows ≠ m.cols ∧ m.trace = .error (.notSquare m.shape)) := by
  by_cases square : m.rows = m.cols
  · exact .inl ⟨square, _, dif_pos square⟩
  · exact .inr ⟨square, dif_neg square⟩

/-- A product that is square has a trace. -/
theorem exists_trace_of_multiply [Zero κ] [Add κ] [Mul κ] {a b : DenseMatrix κ}
    (fits : a.cols = b.rows) (square : a.rows = b.cols) : ∃ z, (a.multiply b >>= trace) = .ok z := by
  obtain ⟨-, m, made, shape⟩ | ⟨apart, -⟩ := multiply_cases a b
  · obtain ⟨-, found⟩ | ⟨uneven, -⟩ := m.trace_cases
    · rw [made]
      exact found
    · have rows : m.rows = a.rows := congrArg Shape.rows shape
      have cols : m.cols = b.cols := congrArg Shape.cols shape
      exact absurd (by rw [rows, cols, square]) uneven
  · exact absurd fits apart

/-- The cells of a tensor product. The row and the column tell by their quotients where to look in
    the left operand, and by their remainders where to look in the right one. -/
theorem cell?_tensor [Mul κ] (a b : DenseMatrix κ) (i j : Nat) :
    (a.tensor b).cell? i j = do
      let x ← a.cell? (i / b.rows) (j / b.cols)
      let y ← b.cell? (i % b.rows) (j % b.cols)
      return x * y := by
  have row : i / b.rows < a.rows ↔ i < a.rows * b.rows := Nat.div_lt_iff_lt_mul b.rows_pos
  have col : j / b.cols < a.cols ↔ j < a.cols * b.cols := Nat.div_lt_iff_lt_mul b.cols_pos
  have within : i % b.rows < b.rows ∧ j % b.cols < b.cols :=
    ⟨Nat.mod_lt i b.rows_pos, Nat.mod_lt j b.cols_pos⟩
  rw [tensor, cell?_ofFn]
  by_cases inside : i < a.rows * b.rows ∧ j < a.cols * b.cols
  · rw [dif_pos inside, cell?, dif_pos ⟨row.mpr inside.1, col.mpr inside.2⟩, cell?,
      dif_pos within]
    rfl
  · have outside : ¬(i / b.rows < a.rows ∧ j / b.cols < a.cols) := by rwa [row, col]
    rw [dif_neg inside, cell?, dif_neg outside]
    rfl

/-- The shapes of which the second one can be multiplied by the first one, as often as asked for. -/
def Evolves (dynamics state : Shape) (steps : Nat) : Prop :=
  (0 < steps → dynamics.cols = state.rows) ∧ (1 < steps → dynamics.rows = dynamics.cols)

instance (dynamics state : Shape) (steps : Nat) : Decidable (Evolves dynamics state steps) :=
  inferInstanceAs (Decidable (_ ∧ _))

/-- A state evolves if the shapes allow it. There is one later state for each step, and all of them
    have the same shape. -/
theorem evolve_cases [Zero κ] [Add κ] [Mul κ] (dynamics state : DenseMatrix κ) (steps : Nat) :
    (Evolves dynamics.shape state.shape steps ∧
      ∃ states, Measurement.evolve dynamics state steps = .ok states ∧ states.length = steps ∧
        ∀ m ∈ states, m.shape = ⟨dynamics.rows, state.cols⟩) ∨
      (¬ Evolves dynamics.shape state.shape steps ∧
        ∃ failure, Measurement.evolve dynamics state steps = .error failure) := by
  induction steps generalizing state with
  | zero => exact .inl ⟨⟨by simp, by simp⟩, [], rfl, rfl, by simp⟩
  | succ steps ih =>
      rw [Measurement.evolve]
      obtain ⟨fits, next, made, shape⟩ | ⟨apart, failed⟩ := dynamics.multiply_cases state
      · have rows : next.rows = dynamics.rows := congrArg Shape.rows shape
        have cols : next.cols = state.cols := congrArg Shape.cols shape
        have later : Evolves dynamics.shape next.shape steps ↔
            Evolves dynamics.shape state.shape (steps + 1) := by
          simp only [Evolves, DenseMatrix.shape, rows]
          constructor
          · rintro ⟨again, -⟩
            exact ⟨fun _ => fits, fun more => (again (by omega)).symm⟩
          · rintro ⟨-, again⟩
            exact ⟨fun more => (again (by omega)).symm, fun more => again (by omega)⟩
        rw [made, ← later]
        obtain ⟨evolves, states, evolved, length, shapes⟩ | ⟨stuck, failure, failed⟩ := ih next
        · refine .inl ⟨evolves, next :: states, ?_, ?_, ?_⟩
          · simp [evolved, bind, Except.bind, pure, Except.pure]
          · rw [List.length_cons, length]
          · intro m member
            rcases List.mem_cons.mp member with rfl | member
            · exact shape
            · rw [shapes m member, cols]
        · exact .inr ⟨stuck, failure, by simp [failed, bind, Except.bind]⟩
      · rw [failed]
        exact .inr ⟨fun evolves => apart (evolves.1 (Nat.succ_pos steps)), _, rfl⟩

end Cells

section Scalars

variable {α : Type u} [Zero α] [Add α] [Neg α] [Sub α] [Mul α]

/-- The shapes that have an inner product: two columns of the same length, or two squares of the same
    size. -/
def HaveInnerProduct (s t : Shape) : Prop :=
  (s.cols = 1 ∧ t.cols = 1 ∧ s.rows = t.rows) ∨ (s.rows = s.cols ∧ s = t)

instance (s t : Shape) : Decidable (HaveInnerProduct s t) :=
  inferInstanceAs (Decidable (_ ∨ _))

theorem haveInnerProduct_self_iff {s : Shape} :
    HaveInnerProduct s s ↔ s.cols = 1 ∨ s.rows = s.cols := by
  simp [HaveInnerProduct]

/-- Matrices have an inner product if their shapes do. -/
theorem innerProduct_cases (v w : DenseMatrix (Scalar α)) :
    (HaveInnerProduct v.shape w.shape ∧ ∃ z, v.innerProduct w = .ok z) ∨
      (¬ HaveInnerProduct v.shape w.shape ∧
        v.innerProduct w = .error (.shapeMismatch .innerProduct v.shape w.shape)) := by
  unfold innerProduct
  by_cases columns : v.isColumn && w.isColumn
  · obtain ⟨one, other⟩ : v.cols = 1 ∧ w.cols = 1 := by simpa [isColumn] using columns
    rw [if_pos columns]
    by_cases rows : v.rows = w.rows
    · rw [if_pos rows]
      refine .inl ⟨.inl ⟨one, other, rows⟩, ?_⟩
      exact exists_trace_of_multiply rows (one.trans other.symm)
    · rw [if_neg rows]
      refine .inr ⟨?_, rfl⟩
      rintro (⟨-, -, same⟩ | ⟨-, same⟩)
      · exact rows same
      · exact rows (congrArg Shape.rows same)
  · rw [if_neg columns]
    have notBoth : ¬(v.cols = 1 ∧ w.cols = 1 ∧ v.rows = w.rows) := by
      rintro ⟨one, other, -⟩
      simp [isColumn, one, other] at columns
    by_cases squares : v.isSquare = true ∧ v.shape = w.shape
    · have square : v.rows = v.cols := by simpa [isSquare] using squares.1
      obtain ⟨rows, cols⟩ := shape_eq_iff.mp squares.2
      rw [if_pos squares]
      exact .inl ⟨.inr ⟨square, squares.2⟩, exists_trace_of_multiply rows cols⟩
    · rw [if_neg squares]
      refine .inr ⟨?_, rfl⟩
      rintro (columns | ⟨square, same⟩)
      · exact notBoth columns
      · exact squares ⟨by simpa [isSquare, shape] using square, same⟩

/-- A state is observed by a square observable that is as wide as the state is long. -/
theorem shape_of_observe [BEq α] {state observable m : DenseMatrix (Scalar α)}
    (made : Measurement.observe state observable = .ok m) :
    observable.rows = observable.cols ∧ state.cols = 1 ∧ state.rows = observable.cols ∧
      m.shape = ⟨observable.rows, 1⟩ := by
  unfold Measurement.observe at made
  split at made
  · cases made
  · rename_i square
    split at made
    · cases made
    · rename_i column
      split at made
      · cases made
      · obtain ⟨one, rows⟩ : state.cols = 1 ∧ state.rows = observable.cols := by
          simpa [isColumn] using column
        obtain ⟨-, product, multiplied, shape⟩ | ⟨-, failed⟩ := observable.multiply_cases state
        · rw [multiplied] at made
          cases made
          exact ⟨by simpa [isSquare] using square, one, rows, by rw [shape, one]⟩
        · rw [failed] at made
          cases made

variable [SquareRoot α]

/-- Only what has an inner product with itself has a norm. If the rest keeps the shape, this is the
    shape of what is made with the norm. -/
theorem shape_of_norm_bind {m n : DenseMatrix (Scalar α)}
    {rest : α → Except AlgebraFailure (DenseMatrix (Scalar α))}
    (keeps : ∀ x r, rest x = .ok r → r.shape = m.shape) (made : (m.norm >>= rest) = .ok n) :
    HaveInnerProduct m.shape m.shape ∧ n.shape = m.shape := by
  obtain ⟨fit, -⟩ | ⟨-, failed⟩ := m.innerProduct_cases m
  · refine ⟨fit, ?_⟩
    cases norm : m.norm with
    | error failure =>
        rw [norm] at made
        cases made
    | ok x =>
        rw [norm] at made
        exact keeps x n made
  · rw [norm, failed] at made
    cases made

variable [Div α] [BEq α]

theorem shape_of_normalize {m n : DenseMatrix (Scalar α)} (made : m.normalize = .ok n) :
    HaveInnerProduct m.shape m.shape ∧ n.shape = m.shape := by
  refine shape_of_norm_bind (fun x r made => ?_) made
  split at made
  · cases made
  · split at made
    · cases made
    · cases made
      rfl

theorem shape_of_probabilities {m n : DenseMatrix (Scalar α)}
    (made : Measurement.probabilities m = .ok n) :
    HaveInnerProduct m.shape m.shape ∧ n.shape = m.shape := by
  refine shape_of_norm_bind (fun x r made => ?_) made
  dsimp only at made
  split at made
  · cases made
  · split at made
    · cases made
    · cases made
      rfl

end Scalars

end DenseMatrix

end QuantumAssembler
