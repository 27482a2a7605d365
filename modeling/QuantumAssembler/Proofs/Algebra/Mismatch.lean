import QuantumAssembler.Machine.State
import QuantumAssembler.Proofs.DenseMatrix.Shape

/-!
Module: QuantumAssembler.Proofs.Algebra.Mismatch
Purpose: What a report of two shapes tells. Where shapes have to be equal, the two that are reported
  differ, and where a matrix is multiplied, the reported width is not the reported height. Only inner
  products can fail for operands of one and the same shape, if it is neither square nor a column; what
  is built on them then reports this shape twice.
Main exports: Shape.IsLopsided, AlgebraFailure.TellsMismatch, Telling, Telling.bind,
  DenseMatrix.telling_ofRows, DenseMatrix.telling_ofFlat, DenseMatrix.telling_innerProduct_iff,
  DenseMatrix.telling_norm_bind_iff, shape_failures_tell
-/

namespace QuantumAssembler

universe u v

/-- A shape that is neither square nor a column, so that it has no inner product with itself. -/
def Shape.IsLopsided (s : Shape) : Prop :=
  s.cols ≠ 1 ∧ s.rows ≠ s.cols

instance (s : Shape) : Decidable s.IsLopsided :=
  inferInstanceAs (Decidable (_ ∧ _))

/-- Whether the shapes that a failure reports show what does not fit: the width of the left factor
    and the height of the right one, or else the shapes as a whole. -/
def AlgebraFailure.TellsMismatch : AlgebraFailure → Prop
  | .shapeMismatch .multiply expected actual => expected.cols ≠ actual.rows
  | .shapeMismatch _ expected actual => expected ≠ actual
  | _ => True

/-- An attempt that fails with shapes only if these show what does not fit. -/
def Telling {β : Type v} (attempt : Except AlgebraFailure β) : Prop :=
  ∀ failure, attempt = .error failure → failure.TellsMismatch

section Attempts

variable {β γ : Type v} {failure : AlgebraFailure}

theorem telling_ok (b : β) : Telling (.ok b : Except AlgebraFailure β) := by
  intro failure failed
  cases failed

theorem telling_error_iff :
    Telling (.error failure : Except AlgebraFailure β) ↔ failure.TellsMismatch := by
  constructor
  · intro telling
    exact telling failure rfl
  · rintro tells other failed
    cases failed
    exact tells

theorem Telling.bind {attempt : Except AlgebraFailure β} {rest : β → Except AlgebraFailure γ}
    (first : Telling attempt) (second : ∀ b, attempt = .ok b → Telling (rest b)) :
    Telling (attempt >>= rest) := by
  cases made : attempt with
  | error failure =>
      rw [made] at first
      exact telling_error_iff.mpr (telling_error_iff.mp first)
  | ok b => exact second b made

end Attempts

namespace DenseMatrix

/-! ### Construction -/

section Construction

variable {κ : Type u} {rows cols : Nat}

/-- A grid is refused for its number of rows, or for a row of another length. -/
theorem telling_ofRows (rows_pos : 0 < rows) (cols_pos : 0 < cols) (grid : List (List κ)) :
    Telling (ofRows rows cols grid) := by
  intro failure failed
  unfold ofRows at failed
  split at failed
  · split at failed
    · rename_i line found
      cases failed
      have uneven : line.length ≠ cols := by simpa using List.find?_some found
      intro same
      exact uneven (congrArg Shape.cols same).symm
    · cases failed
  · rename_i misfit
    cases failed
    intro same
    exact misfit ⟨rows_pos, cols_pos, (congrArg Shape.rows same).symm⟩

/-- Cells that are too few, or enough for another row, fill another number of whole rows. -/
theorem telling_ofFlat (rows_pos : 0 < rows) (cols_pos : 0 < cols) {cells : Array κ}
    (apart : cells.size ≤ rows * cols ∨ (rows + 1) * cols ≤ cells.size) :
    Telling (ofFlat rows cols cells) := by
  intro failure failed
  unfold ofFlat at failed
  split at failed
  · cases failed
  · rename_i misfit
    cases failed
    intro same
    have whole : rows = cells.size / cols := by
      rw [← Nat.max_eq_left cols_pos]
      exact congrArg Shape.rows same
    have enough : rows * cols ≤ cells.size := by
      rw [whole]
      exact Nat.div_mul_le_self ..
    have short : cells.size < (rows + 1) * cols := by
      rw [whole, Nat.mul_comm]
      exact Nat.lt_mul_div_succ _ cols_pos
    exact misfit ⟨rows_pos, cols_pos, (apart.resolve_right (not_le.mpr short)).antisymm enough⟩

theorem telling_column {cells : Array κ} (some : 0 < cells.size) : Telling (column cells) :=
  telling_ofFlat some Nat.one_pos (.inl (Nat.mul_one _).ge)

theorem telling_row {cells : Array κ} (some : 0 < cells.size) : Telling (row cells) :=
  telling_ofFlat Nat.one_pos some (.inl (Nat.one_mul _).ge)

end Construction

/-! ### Sums and products -/

section Cells

variable {κ : Type u}

theorem telling_add [Add κ] (a b : DenseMatrix κ) : Telling (a.add b) := by
  obtain ⟨-, m, made, -⟩ | ⟨apart, failed⟩ := zipWith_cases .add (· + ·) a b
  · rw [add, made]
    exact telling_ok m
  · rw [add, failed]
    exact telling_error_iff.mpr apart

theorem telling_subtract [Sub κ] (a b : DenseMatrix κ) : Telling (a.subtract b) := by
  obtain ⟨-, m, made, -⟩ | ⟨apart, failed⟩ := zipWith_cases .subtract (· - ·) a b
  · rw [subtract, made]
    exact telling_ok m
  · rw [subtract, failed]
    exact telling_error_iff.mpr apart

variable [Zero κ] [Add κ] [Mul κ]

theorem telling_multiply (a b : DenseMatrix κ) : Telling (a.multiply b) := by
  obtain ⟨-, m, made, -⟩ | ⟨apart, failed⟩ := multiply_cases a b
  · rw [made]
    exact telling_ok m
  · rw [failed]
    exact telling_error_iff.mpr apart

theorem telling_evolve (dynamics state : DenseMatrix κ) (steps : Nat) :
    Telling (Measurement.evolve dynamics state steps) := by
  induction steps generalizing state with
  | zero => exact telling_ok []
  | succ steps ih =>
      apply (telling_multiply dynamics state).bind
      intro next _
      apply (ih next).bind
      intro others _
      exact telling_ok (next :: others)

end Cells

/-! ### Inner products -/

section Scalars

variable {α : Type u} [Zero α] [Add α] [Neg α] [Sub α] [Mul α]

theorem not_haveInnerProduct_self_iff {s : Shape} : ¬ HaveInnerProduct s s ↔ s.IsLopsided := by
  rw [haveInnerProduct_self_iff, not_or, Shape.IsLopsided]

/-- Shapes that have an inner product with each other have one with themselves. -/
theorem HaveInnerProduct.not_isLopsided {s t : Shape} (fit : HaveInnerProduct s t) :
    ¬ s.IsLopsided ∧ ¬ t.IsLopsided := by
  rcases fit with ⟨column, columnToo, -⟩ | ⟨square, rfl⟩
  · exact ⟨fun lopsided => lopsided.1 column, fun lopsided => lopsided.1 columnToo⟩
  · exact ⟨fun lopsided => lopsided.2 square, fun lopsided => lopsided.2 square⟩

/-- An inner product reports the shapes of its operands. They are the same for operands of one shape
    that has no inner product with itself. -/
theorem telling_innerProduct_iff (v w : DenseMatrix (Scalar α)) :
    Telling (v.innerProduct w) ↔ ¬ (v.shape = w.shape ∧ v.shape.IsLopsided) := by
  obtain ⟨fit, z, made⟩ | ⟨apart, failed⟩ := v.innerProduct_cases w
  · rw [made]
    refine iff_of_true (telling_ok z) ?_
    rintro ⟨same, lopsided⟩
    rw [← same] at fit
    exact not_haveInnerProduct_self_iff.mpr lopsided fit
  · rw [failed, telling_error_iff]
    refine not_congr ⟨fun same => ⟨same, ?_⟩, And.left⟩
    change v.shape = w.shape at same
    rw [← same] at apart
    exact not_haveInnerProduct_self_iff.mp apart

variable [SquareRoot α]

/-- A matrix has a norm, or its shape is reported twice. -/
theorem norm_cases (m : DenseMatrix (Scalar α)) :
    (¬ m.shape.IsLopsided ∧ ∃ x, m.norm = .ok x) ∨
      (m.shape.IsLopsided ∧
        m.norm = .error (.shapeMismatch .innerProduct m.shape m.shape)) := by
  obtain ⟨fit, z, made⟩ | ⟨apart, failed⟩ := m.innerProduct_cases m
  · refine .inl ⟨fun lopsided => not_haveInnerProduct_self_iff.mpr lopsided fit,
      SquareRoot.sqrt z.re, ?_⟩
    rw [norm, made]
    rfl
  · refine .inr ⟨not_haveInnerProduct_self_iff.mp apart, ?_⟩
    rw [norm, failed]
    rfl

/-- What is made with a norm reports shapes only if there is none. -/
theorem telling_norm_bind_iff {β : Type u} {rest : α → Except AlgebraFailure β}
    (m : DenseMatrix (Scalar α)) (telling : ∀ x, Telling (rest x)) :
    Telling (m.norm >>= rest) ↔ ¬ m.shape.IsLopsided := by
  obtain ⟨straight, x, made⟩ | ⟨lopsided, failed⟩ := m.norm_cases
  · rw [made]
    exact iff_of_true (telling x) straight
  · rw [failed]
    refine iff_of_false (fun tells => ?_) (not_not_intro lopsided)
    exact telling_error_iff.mp tells rfl

theorem telling_norm_iff (m : DenseMatrix (Scalar α)) :
    Telling m.norm ↔ ¬ m.shape.IsLopsided := by
  have whole : (m.norm >>= Except.ok) = m.norm := by
    cases m.norm <;> rfl
  rw [← whole]
  exact m.telling_norm_bind_iff telling_ok

theorem telling_distance_iff (v w : DenseMatrix (Scalar α)) :
    Telling (v.distance w) ↔ ¬ (v.shape = w.shape ∧ v.shape.IsLopsided) := by
  obtain ⟨same, m, made, shape⟩ | ⟨apart, failed⟩ := zipWith_cases .subtract (· - ·) v w
  · have difference : v.distance w = m.norm := by
      rw [distance, subtract, made]
      rfl
    rw [difference, telling_norm_iff, shape, and_iff_right same]
  · have difference : v.distance w = .error (.shapeMismatch .subtract v.shape w.shape) := by
      rw [distance, subtract, failed]
      rfl
    rw [difference, telling_error_iff]
    exact iff_of_true apart fun both => apart both.1

variable [Div α] [BEq α]

theorem telling_normalize_iff (m : DenseMatrix (Scalar α)) :
    Telling m.normalize ↔ ¬ m.shape.IsLopsided := by
  refine m.telling_norm_bind_iff fun x => ?_
  split
  · exact telling_error_iff.mpr trivial
  · split
    · exact telling_error_iff.mpr trivial
    · exact telling_ok _

theorem telling_probabilities_iff (m : DenseMatrix (Scalar α)) :
    Telling (Measurement.probabilities m) ↔ ¬ m.shape.IsLopsided := by
  refine m.telling_norm_bind_iff fun x => ?_
  dsimp only
  split
  · exact telling_error_iff.mpr trivial
  · split
    · exact telling_error_iff.mpr trivial
    · exact telling_ok _

end Scalars

end DenseMatrix

/-! ### Observation -/

namespace Measurement

open DenseMatrix

variable {α : Type u} [Zero α] [Add α] [Sub α] [Mul α] [BEq α]

theorem telling_divide [Div α] (z w : Scalar α) : Telling (z.divide w) := by
  unfold Scalar.divide
  dsimp only
  split
  · exact telling_error_iff.mpr trivial
  · exact telling_ok _

variable [Neg α]

theorem telling_observe (state observable : DenseMatrix (Scalar α)) :
    Telling (observe state observable) := by
  unfold observe
  split
  · exact telling_error_iff.mpr trivial
  · split
    · rename_i misfit
      refine telling_error_iff.mpr fun same => ?_
      obtain ⟨rows, cols⟩ := Shape.mk.inj same
      simp [isColumn, ← rows, ← cols] at misfit
    · split
      · exact telling_error_iff.mpr trivial
      · exact telling_multiply observable state

/-- Once a state could be observed, its inner product with what came out is there. -/
theorem telling_expectedValue (state observable : DenseMatrix (Scalar α)) :
    Telling (expectedValue state observable) := by
  apply (telling_observe state observable).bind
  intro observed made
  obtain ⟨square, column, length, shape⟩ := shape_of_observe made
  have fit : HaveInnerProduct state.shape observed.shape := by
    rw [shape]
    exact .inl ⟨column, rfl, length.trans square.symm⟩
  obtain ⟨-, z, product⟩ | ⟨apart, -⟩ := state.innerProduct_cases observed
  · rw [product]
    exact telling_ok z.re
  · exact absurd fit apart

variable [Div α] [SquareRoot α]

theorem telling_probabilityAt (state : DenseMatrix (Scalar α)) (position : Nat) :
    Telling (probabilityAt state position) := by
  unfold probabilityAt
  split
  · rename_i wide
    refine telling_error_iff.mpr fun same => ?_
    have one : 1 = state.cols := congrArg Shape.cols same
    simp [isColumn, ← one] at wide
  · rename_i column
    have straight : ¬ state.shape.IsLopsided := by
      rintro ⟨wide, -⟩
      exact wide (show state.cols = 1 by simpa [isColumn] using column)
    split
    · exact telling_error_iff.mpr trivial
    · refine (telling_norm_bind_iff state fun x => ?_).mpr straight
      split
      · exact telling_error_iff.mpr trivial
      · exact telling_ok _

/-- Operands that have an inner product have norms. -/
theorem telling_transitionAmplitude_iff (start finish : DenseMatrix (Scalar α)) :
    Telling (transitionAmplitude start finish) ↔
      ¬ (start.shape = finish.shape ∧ start.shape.IsLopsided) := by
  rw [← telling_innerProduct_iff]
  obtain ⟨fit, z, made⟩ | ⟨-, failed⟩ := start.innerProduct_cases finish
  · obtain ⟨first, second⟩ := fit.not_isLopsided
    rw [made]
    refine iff_of_true ?_ (telling_ok z)
    apply ((telling_innerProduct_iff start finish).mpr fun both => first both.2).bind
    intro product _
    apply ((telling_norm_iff start).mpr first).bind
    intro startNorm _
    apply ((telling_norm_iff finish).mpr second).bind
    intro finishNorm _
    exact telling_divide product _
  · rw [transitionAmplitude, failed]
    exact Iff.rfl

end Measurement

/-! ### Registers -/

theorem State.tells_of_store {s : State} {register : Nat} {m : FloatMatrix}
    {failure : AlgebraFailure} (failed : s.store register m = .error (.algebra failure)) :
    failure.TellsMismatch := by
  unfold State.store at failed
  split at failed
  · rename_i inside
    split at failed
    · rw [State.load, if_pos inside] at failed
      cases failed
    · rename_i misfit
      cases failed
      exact fun same => misfit same.symm
  · cases failed

/-! ### All operations -/

open DenseMatrix Measurement in
/-- What failures report of shapes. A matrix of at least one row and one column is refused with shapes
    that differ, be it made of a grid or of a flat sequence that is not longer than asked for or has
    enough cells for another row; so are operands of sums, differences and observations, states of
    which a probability is taken, and contents of registers. For factors of a product, and the steps
    of an evolution, the width of the one and the height of the other differ. Inner products, norms
    and what is built on them tell the mismatch as well, but for operands of one shape that is neither
    square nor a column, whose shape they report twice. -/
theorem shape_failures_tell {α : Type u} [Zero α] [Add α] [Neg α] [Sub α] [Mul α] [Div α] [BEq α]
    [SquareRoot α] :
    (∀ rows cols : Nat, 0 < rows → 0 < cols →
      (∀ grid : List (List (Scalar α)), Telling (ofRows rows cols grid)) ∧
      ∀ cells : Array (Scalar α), cells.size ≤ rows * cols ∨ (rows + 1) * cols ≤ cells.size →
        Telling (ofFlat rows cols cells)) ∧
    (∀ cells : Array (Scalar α), 0 < cells.size → Telling (column cells) ∧ Telling (row cells)) ∧
    (∀ (v w : DenseMatrix (Scalar α)),
      Telling (v.add w) ∧ Telling (v.subtract w) ∧ Telling (v.multiply w) ∧
      (∀ steps, Telling (evolve v w steps)) ∧ Telling (observe v w) ∧ Telling (expectedValue v w) ∧
      (Telling (v.innerProduct w) ↔ ¬ (v.shape = w.shape ∧ v.shape.IsLopsided)) ∧
      (Telling (v.distance w) ↔ ¬ (v.shape = w.shape ∧ v.shape.IsLopsided)) ∧
      (Telling (transitionAmplitude v w) ↔ ¬ (v.shape = w.shape ∧ v.shape.IsLopsided))) ∧
    (∀ m : DenseMatrix (Scalar α), (∀ position, Telling (probabilityAt m position)) ∧
      (Telling m.norm ↔ ¬ m.shape.IsLopsided) ∧ (Telling m.normalize ↔ ¬ m.shape.IsLopsided) ∧
      (Telling (probabilities m) ↔ ¬ m.shape.IsLopsided)) ∧
    ∀ (s : State) (register : Nat) (m : FloatMatrix) (failure : AlgebraFailure),
      s.store register m = .error (.algebra failure) → failure.TellsMismatch := by
  refine ⟨?construction, ?vectors, ?pairs, ?single, ?registers⟩
  case construction =>
    intro rows cols rows_pos cols_pos
    exact ⟨telling_ofRows rows_pos cols_pos, fun cells => telling_ofFlat rows_pos cols_pos⟩
  case vectors => exact fun cells some => ⟨telling_column some, telling_row some⟩
  case pairs =>
    intro v w
    exact ⟨telling_add v w, telling_subtract v w, telling_multiply v w, telling_evolve v w,
      telling_observe v w, telling_expectedValue v w, telling_innerProduct_iff v w,
      telling_distance_iff v w, telling_transitionAmplitude_iff v w⟩
  case single =>
    intro m
    exact ⟨telling_probabilityAt m, telling_norm_iff m, telling_normalize_iff m,
      telling_probabilities_iff m⟩
  case registers => exact fun s register m failure failed => s.tells_of_store failed

open DenseMatrix in
/-- A ragged grid, cells for three rows instead of two, a column, and a register that is given a matrix
    of another side. -/
theorem shape_failures_tell_ragged :
    let grid : List (List (Scalar Float)) := [[1, 0], [1]]
    let cells : Array (Scalar Float) := #[1, 0, 0, 0, 0, 1]
    let s := State.fresh 2 1
    let m : FloatMatrix := diagonal 3 (by decide)
    (Telling (ofRows 2 2 grid) ∧
      ofRows 2 2 grid = .error (.shapeMismatch .construct ⟨2, 2⟩ ⟨2, 1⟩)) ∧
    (Telling (ofFlat 2 2 cells) ∧
      ofFlat 2 2 cells = .error (.shapeMismatch .construct ⟨2, 2⟩ ⟨3, 2⟩)) ∧
    (Telling (column cells) ∧ (column cells).toOption.isSome) ∧
    s.store 0 m = .error (.algebra (.shapeMismatch .register ⟨2, 2⟩ ⟨3, 3⟩)) ∧
    (AlgebraFailure.shapeMismatch .register ⟨2, 2⟩ ⟨3, 3⟩).TellsMismatch := by
  intro grid cells s m
  obtain ⟨construction, vectors, -, -, registers⟩ := shape_failures_tell (α := Float)
  obtain ⟨grids, flat⟩ := construction 2 2 (by decide) (by decide)
  have refused : s.store 0 m = .error (.algebra (.shapeMismatch .register ⟨2, 2⟩ ⟨3, 3⟩)) := rfl
  exact ⟨⟨grids grid, rfl⟩, ⟨flat cells (.inr (by decide)), by simp [ofFlat, cells]⟩,
    ⟨(vectors cells (by decide)).1, rfl⟩, refused, registers s 0 m _ refused⟩

open DenseMatrix in
/-- A row has no inner product with itself, and its shape is reported as what is expected and as what
    is found. So is the shape asked for when one cell too many is given for it. -/
theorem shape_reported_twice :
    let v : DenseMatrix (Scalar Float) := ⟨1, 2, #[1, 0], by decide, by decide, rfl⟩
    let cells : Array (Scalar Float) := #[1, 0, 0, 0, 1]
    (v.norm = .error (.shapeMismatch .innerProduct ⟨1, 2⟩ ⟨1, 2⟩) ∧ ¬ Telling v.norm) ∧
    ofFlat 2 2 cells = .error (.shapeMismatch .construct ⟨2, 2⟩ ⟨2, 2⟩) ∧
      ¬ Telling (ofFlat 2 2 cells) := by
  intro v cells
  have row : v.norm = .error (.shapeMismatch .innerProduct ⟨1, 2⟩ ⟨1, 2⟩) := rfl
  have flat : ofFlat 2 2 cells = .error (.shapeMismatch .construct ⟨2, 2⟩ ⟨2, 2⟩) := by
    simp [ofFlat, cells]
  exact ⟨⟨row, fun telling => telling _ row rfl⟩, flat, fun telling => telling _ flat rfl⟩

end QuantumAssembler
