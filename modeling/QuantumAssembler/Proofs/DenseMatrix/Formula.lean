import QuantumAssembler.Machine.Variables
import QuantumAssembler.Proofs.DenseMatrix.Shape

/-!
Module: QuantumAssembler.Proofs.DenseMatrix.Formula
Purpose: How matrices come about. A formula is a tree of constructors and operations; its value is
  worked out by these, and its shape by rules that look at shapes only. What a formula has for a
  value has the shape that the rules give, and unless an operation in it judges scalars, there is a
  value exactly if there is a shape.
Main exports: Formula.Source, Formula.Unary, Formula.Binary, Formula, Formula.value?, Formula.shape?,
  Formula.shape?_of_value?, Formula.map_shape_value?, Formula.matrices_keep_shape
-/

namespace QuantumAssembler

namespace Formula

/-- What is seen as a value came of a success. -/
theorem eq_ok_of_toOption {ε β : Type} {result : Except ε β} {value : β}
    (some : result.toOption = Option.some value) : result = .ok value := by
  cases result with
  | error failure => cases some
  | ok other =>
      cases some
      rfl

/-- What succeeds under a condition, and fails otherwise, succeeds exactly under it. -/
theorem exists_ok_iff {ε β : Type} {result : Except ε β} {condition : Prop}
    (settled : (condition ∧ ∃ value, result = .ok value) ∨
      (¬ condition ∧ ∃ failure, result = .error failure)) :
    (∃ value, result = .ok value) ↔ condition := by
  obtain ⟨holds, value, made⟩ | ⟨fails, failure, failed⟩ := settled
  · exact iff_of_true ⟨value, made⟩ holds
  · refine iff_of_false ?_ fails
    rintro ⟨value, made⟩
    cases failed.symm.trans made

/-! ### Constructors and operations -/

/-- The constructors of matrices. -/
inductive Source where
  | grid (rows cols : Nat) (lines : List (List (Scalar Float)))
  | flat (rows cols : Nat) (cells : Array (Scalar Float))
  | zeros (rows cols : Nat)
  | column (cells : Array (Scalar Float))
  | row (cells : Array (Scalar Float))
  | identity (size : Nat)
  | gate (g : Gate)

/-- The operations on one matrix. -/
inductive Unary where
  | negate
  | scale (factor : Scalar Float)
  | map (f : Scalar Float → Scalar Float)
  | transpose
  | conjugate
  | adjoint
  | identity
  | normalize
  | probabilities

/-- The operations on two matrices. -/
inductive Binary where
  | add
  | subtract
  | multiply
  | tensor
  /-- A state and an observable. -/
  | observe
  /-- The dynamics and a state, and which of the later states is meant. -/
  | evolve (steps position : Nat)

namespace Source

/-- The matrix that is made, if there is one. -/
def matrix? : Source → Option FloatMatrix
  | grid rows cols lines => (DenseMatrix.ofRows rows cols lines).toOption
  | flat rows cols cells => (DenseMatrix.ofFlat rows cols cells).toOption
  | zeros rows cols => (DenseMatrix.zeros rows cols).toOption
  | column cells => (DenseMatrix.column cells).toOption
  | row cells => (DenseMatrix.row cells).toOption
  | identity size => (DenseMatrix.identity size).toOption
  | gate g => g.matrix.toOption

/-- The shape that was asked for, if the cells fill it. -/
def shape? : Source → Option Shape
  | grid rows cols lines =>
      if DenseMatrix.FillsShape rows cols lines then some ⟨rows, cols⟩ else none
  | flat rows cols cells =>
      if 0 < rows ∧ 0 < cols ∧ cells.size = rows * cols then some ⟨rows, cols⟩ else none
  | zeros rows cols => if 0 < rows ∧ 0 < cols then some ⟨rows, cols⟩ else none
  | column cells => if 0 < cells.size then some ⟨cells.size, 1⟩ else none
  | row cells => if 0 < cells.size then some ⟨1, cells.size⟩ else none
  | identity size => if 0 < size then some ⟨size, size⟩ else none
  | gate .cnot => some ⟨4, 4⟩
  | gate .hadamard => some ⟨2, 2⟩
  | gate (.identity size) => if 0 < size then some ⟨size, size⟩ else none

theorem map_shape_ofFlat (rows cols : Nat) (cells : Array (Scalar Float)) :
    (DenseMatrix.ofFlat rows cols cells).toOption.map DenseMatrix.shape =
      if 0 < rows ∧ 0 < cols ∧ cells.size = rows * cols then some ⟨rows, cols⟩ else none := by
  unfold DenseMatrix.ofFlat
  split <;> rfl

theorem map_shape_identity (size : Nat) :
    (DenseMatrix.identity (κ := Scalar Float) size).toOption.map DenseMatrix.shape =
      if 0 < size then some ⟨size, size⟩ else none := by
  unfold DenseMatrix.identity
  split <;> rfl

theorem map_shape_ofRows (rows cols : Nat) (lines : List (List (Scalar Float))) :
    (DenseMatrix.ofRows rows cols lines).toOption.map DenseMatrix.shape =
      if DenseMatrix.FillsShape rows cols lines then some ⟨rows, cols⟩ else none := by
  obtain ⟨fills, m, made, shape, -⟩ | ⟨lacks, found, failed⟩ :=
    DenseMatrix.ofRows_cases rows cols lines
  · rw [made, if_pos fills, ← shape]
    rfl
  · rw [failed, if_neg lacks]
    rfl

/-- A constructor makes a matrix exactly if the cells fill the shape. -/
theorem map_shape_matrix? (s : Source) : s.matrix?.map DenseMatrix.shape = s.shape? := by
  cases s with
  | grid rows cols lines => exact map_shape_ofRows rows cols lines
  | flat rows cols cells => exact map_shape_ofFlat rows cols cells
  | zeros rows cols =>
      rw [matrix?, DenseMatrix.zeros, map_shape_ofFlat, shape?]
      simp
  | column cells =>
      rw [matrix?, DenseMatrix.column, map_shape_ofFlat, shape?]
      simp
  | row cells =>
      rw [matrix?, DenseMatrix.row, map_shape_ofFlat, shape?]
      simp
  | identity size => exact map_shape_identity size
  | gate g =>
      cases g with
      | cnot => rfl
      | hadamard => rfl
      | identity size => exact map_shape_identity size

end Source

namespace Unary

/-- The result of an operation, if it has one. -/
def result? (m : FloatMatrix) : Unary → Option FloatMatrix
  | negate => some m.negate
  | scale factor => some (m.scale factor)
  | map f => some (m.map f)
  | transpose => some m.transpose
  | conjugate => some m.conjugate
  | adjoint => some m.adjoint
  | identity => m.identityLike?
  | normalize => m.normalize.toOption
  | probabilities => (Measurement.probabilities m).toOption

/-- The shape of the result, if the shape of the operand allows one. -/
def shape? (s : Shape) : Unary → Option Shape
  | negate | scale _ | map _ | conjugate => some s
  | transpose | adjoint => some ⟨s.cols, s.rows⟩
  | identity => if s.rows = s.cols then some s else none
  | normalize | probabilities => if DenseMatrix.HaveInnerProduct s s then some s else none

/-- Whether the operation may fail because of the scalars. -/
def judgesScalars : Unary → Bool
  | normalize | probabilities => true
  | _ => false

/-- An operation that judges no scalars has a result exactly if the shape allows it. -/
theorem map_shape_result? (m : FloatMatrix) {op : Unary} (sure : op.judgesScalars = false) :
    (op.result? m).map DenseMatrix.shape = op.shape? m.shape := by
  cases op with
  | negate | scale | map | conjugate | transpose | adjoint => rfl
  | identity =>
      rw [result?, shape?, DenseMatrix.identityLike?]
      by_cases square : m.shape.rows = m.shape.cols
      · rw [if_pos (show m.isSquare = true from beq_iff_eq.mpr square), if_pos square]
        exact congrArg (fun cols => some (Shape.mk m.rows cols)) square
      · rw [if_neg (show ¬ m.isSquare = true from fun same => square (beq_iff_eq.mp same)),
          if_neg square]
        rfl
  | normalize | probabilities => cases sure

/-- A result has the shape that the rules give. -/
theorem shape?_of_result? {m n : FloatMatrix} {op : Unary} (made : op.result? m = some n) :
    op.shape? m.shape = some n.shape := by
  cases judges : op.judgesScalars with
  | false =>
      rw [← map_shape_result? m judges, made]
      rfl
  | true =>
      cases op with
      | normalize =>
          obtain ⟨fit, shape⟩ := DenseMatrix.shape_of_normalize (eq_ok_of_toOption made)
          rw [shape?, if_pos fit, shape]
      | probabilities =>
          obtain ⟨fit, shape⟩ := DenseMatrix.shape_of_probabilities (eq_ok_of_toOption made)
          rw [shape?, if_pos fit, shape]
      | negate | scale | map | conjugate | transpose | adjoint | identity => cases judges

end Unary

namespace Binary

/-- The result of an operation, if it has one. -/
def result? (m n : FloatMatrix) : Binary → Option FloatMatrix
  | add => (m.add n).toOption
  | subtract => (m.subtract n).toOption
  | multiply => (m.multiply n).toOption
  | tensor => some (m.tensor n)
  | observe => (Measurement.observe m n).toOption
  | evolve steps position => (Measurement.evolve m n steps).toOption.bind (·[position]?)

/-- The shape of the result, if the shapes of the operands allow one. -/
def shape? (s t : Shape) : Binary → Option Shape
  | add | subtract => if s = t then some s else none
  | multiply => if s.cols = t.rows then some ⟨s.rows, t.cols⟩ else none
  | tensor => some ⟨s.rows * t.rows, s.cols * t.cols⟩
  | observe =>
      if t.rows = t.cols ∧ s.cols = 1 ∧ s.rows = t.cols then some ⟨t.rows, 1⟩ else none
  | evolve steps position =>
      if DenseMatrix.Evolves s t steps ∧ position < steps then some ⟨s.rows, t.cols⟩ else none

/-- Whether the operation may fail because of the scalars. -/
def judgesScalars : Binary → Bool
  | observe => true
  | _ => false

/-- An operation that judges no scalars has a result exactly if the shapes allow it. -/
theorem map_shape_result? (m n : FloatMatrix) {op : Binary} (sure : op.judgesScalars = false) :
    (op.result? m n).map DenseMatrix.shape = op.shape? m.shape n.shape := by
  have combined : ∀ (operation : Operation) (f : Scalar Float → Scalar Float → Scalar Float),
      (DenseMatrix.zipWith operation f m n).toOption.map DenseMatrix.shape =
        if m.shape = n.shape then some m.shape else none := by
    intro operation f
    obtain ⟨same, r, made, shape⟩ | ⟨apart, failed⟩ := DenseMatrix.zipWith_cases operation f m n
    · rw [made, if_pos same, ← shape]
      rfl
    · rw [failed, if_neg apart]
      rfl
  cases op with
  | add => exact combined .add (· + ·)
  | subtract => exact combined .subtract (· - ·)
  | multiply =>
      obtain ⟨fits, r, made, shape⟩ | ⟨apart, failed⟩ := m.multiply_cases n
      · rw [result?, made, shape?, if_pos (show m.shape.cols = n.shape.rows from fits)]
        exact congrArg some shape
      · rw [result?, failed, shape?, if_neg (show m.shape.cols ≠ n.shape.rows from apart)]
        rfl
  | tensor => rfl
  | evolve steps position =>
      obtain ⟨evolves, states, made, length, shapes⟩ | ⟨stuck, failure, failed⟩ :=
        m.evolve_cases n steps
      · rw [result?, made, shape?]
        by_cases inside : position < steps
        · have within : position < states.length := length ▸ inside
          rw [if_pos ⟨evolves, inside⟩]
          simp only [Except.toOption, Option.bind_some, List.getElem?_eq_getElem within,
            Option.map_some]
          exact congrArg some (shapes _ (List.getElem_mem within))
        · have beyond : states.length ≤ position := by omega
          rw [if_neg fun both => inside both.2]
          simp [Except.toOption, List.getElem?_eq_none beyond]
      · rw [result?, failed, shape?, if_neg fun both => stuck both.1]
        rfl
  | observe => cases sure

/-- A result has the shape that the rules give. -/
theorem shape?_of_result? {m n r : FloatMatrix} {op : Binary} (made : op.result? m n = some r) :
    op.shape? m.shape n.shape = some r.shape := by
  cases judges : op.judgesScalars with
  | false =>
      rw [← map_shape_result? m n judges, made]
      rfl
  | true =>
      cases op with
      | observe =>
          obtain ⟨square, one, rows, shape⟩ :=
            DenseMatrix.shape_of_observe (eq_ok_of_toOption made)
          have fits : n.shape.rows = n.shape.cols ∧ m.shape.cols = 1 ∧
              m.shape.rows = n.shape.cols := ⟨square, one, rows⟩
          rw [shape?, if_pos fits, shape]
          rfl
      | add | subtract | multiply | tensor | evolve => cases judges

end Binary

end Formula

/-! ### Formulas -/

/-- How a matrix comes about. -/
inductive Formula where
  | source (s : Formula.Source)
  | unary (op : Formula.Unary) (a : Formula)
  | binary (op : Formula.Binary) (a b : Formula)

namespace Formula

/-- The matrix that comes about, if no constructor or operation fails. -/
def value? : Formula → Option FloatMatrix
  | source s => s.matrix?
  | unary op a => a.value?.bind op.result?
  | binary op a b => a.value?.bind fun m => b.value?.bind fun n => op.result? m n

/-- The shape that the rules give. -/
def shape? : Formula → Option Shape
  | source s => s.shape?
  | unary op a => a.shape?.bind op.shape?
  | binary op a b => a.shape?.bind fun s => b.shape?.bind fun t => op.shape? s t

/-- Whether there is an operation that may fail because of the scalars. -/
def judgesScalars : Formula → Bool
  | source _ => false
  | unary op a => op.judgesScalars || a.judgesScalars
  | binary op a b => op.judgesScalars || a.judgesScalars || b.judgesScalars

/-- The value of a formula has the shape that the rules give. -/
theorem shape?_of_value? {f : Formula} {m : FloatMatrix} (valued : f.value? = some m) :
    f.shape? = some m.shape := by
  induction f generalizing m with
  | source s =>
      rw [shape?, ← s.map_shape_matrix?, show s.matrix? = some m from valued]
      rfl
  | unary op a ih =>
      obtain ⟨n, inner, made⟩ := Option.bind_eq_some_iff.mp valued
      rw [shape?, ih inner]
      exact Unary.shape?_of_result? made
  | binary op a b ihLeft ihRight =>
      obtain ⟨left, inner, rest⟩ := Option.bind_eq_some_iff.mp valued
      obtain ⟨right, innerRight, made⟩ := Option.bind_eq_some_iff.mp rest
      rw [shape?, ihLeft inner, ihRight innerRight]
      exact Binary.shape?_of_result? made

/-- If no operation judges scalars, there is a value exactly if there is a shape. -/
theorem map_shape_value? {f : Formula} (sure : f.judgesScalars = false) :
    f.value?.map DenseMatrix.shape = f.shape? := by
  induction f with
  | source s => exact s.map_shape_matrix?
  | unary op a ih =>
      obtain ⟨opSure, innerSure⟩ := Bool.or_eq_false_iff.mp sure
      rw [value?, shape?, ← ih innerSure]
      cases a.value? with
      | none => rfl
      | some m => exact op.map_shape_result? m opSure
  | binary op a b ihLeft ihRight =>
      obtain ⟨restSure, rightSure⟩ := Bool.or_eq_false_iff.mp sure
      obtain ⟨opSure, leftSure⟩ := Bool.or_eq_false_iff.mp restSure
      rw [value?, shape?, ← ihLeft leftSure, ← ihRight rightSure]
      cases a.value? with
      | none => rfl
      | some m =>
          cases b.value? with
          | none => rfl
          | some n => exact op.map_shape_result? m n opSure

/-- Matrices keep their shape. Whatever comes about by constructors and operations has rows and
    columns, a cell for each row and column, and the shape that the rules give. A grid makes a matrix
    exactly if it fills the shape, and is found again in it. All ways of looking at a cell agree. And
    whatever the scalars are, the operations that ask for fitting shapes succeed exactly on these. -/
theorem matrices_keep_shape :
    (∀ (f : Formula) (m : FloatMatrix), f.value? = some m →
      1 ≤ m.rows ∧ 1 ≤ m.cols ∧ m.cells.size = m.rows * m.cols ∧ f.shape? = some m.shape) ∧
    (∀ (rows cols : Nat) (grid : List (List (Scalar Float))),
      ((∃ m, DenseMatrix.ofRows rows cols grid = .ok m) ↔
        1 ≤ rows ∧ 1 ≤ cols ∧ grid.length = rows ∧ ∀ line ∈ grid, line.length = cols) ∧
      ∀ m, DenseMatrix.ofRows rows cols grid = .ok m →
        m.shape = ⟨rows, cols⟩ ∧ ∀ i j, m.cell? i j = grid[i]?.bind (·[j]?)) ∧
    (∀ (m : FloatMatrix) (i j : Nat),
      ((m.cell? i j).isSome ↔ i < m.rows ∧ j < m.cols) ∧
      (m.rowAt? i).bind (·[j]?) = m.cell? i j ∧
      (∀ cell, m.entryAt i j = .ok cell ↔ m.cell? i j = some cell) ∧
      (i < m.rows → j < m.cols → m.cells[i * m.cols + j]? = m.cell? i j)) ∧
    ∀ a b : FloatMatrix,
      ((∃ m, a.add b = .ok m) ↔ a.shape = b.shape) ∧
      ((∃ m, a.subtract b = .ok m) ↔ a.shape = b.shape) ∧
      ((∃ m, a.multiply b = .ok m) ↔ a.cols = b.rows) ∧
      (∀ m, a.multiply b = .ok m → m.shape = ⟨a.rows, b.cols⟩) ∧
      ((∃ z, a.trace = .ok z) ↔ a.rows = a.cols) ∧
      ((∃ z, a.innerProduct b = .ok z) ↔
        (a.cols = 1 ∧ b.cols = 1 ∧ a.rows = b.rows) ∨
          (a.rows = a.cols ∧ b.rows = b.cols ∧ a.rows = b.rows)) ∧
      (a.tensor b).shape = ⟨a.rows * b.rows, a.cols * b.cols⟩ ∧
      ∀ i j, (a.tensor b).cell? i j = do
        let x ← a.cell? (i / b.rows) (j / b.cols)
        let y ← b.cell? (i % b.rows) (j % b.cols)
        return x * y := by
  refine ⟨?_, ?_, ?_, ?_⟩
  · intro f m valued
    exact ⟨m.rows_pos, m.cols_pos, m.size_cells, shape?_of_value? valued⟩
  · intro rows cols grid
    constructor
    · exact exists_ok_iff ((DenseMatrix.ofRows_cases rows cols grid).imp
        (fun ⟨fills, m, made, _⟩ => ⟨fills, m, made⟩)
        fun ⟨lacks, _, failed⟩ => ⟨lacks, _, failed⟩)
    · intro m made
      obtain ⟨-, n, same, shape, lines⟩ | ⟨-, found, failed⟩ :=
        DenseMatrix.ofRows_cases rows cols grid
      · cases same.symm.trans made
        refine ⟨shape, fun i j => ?_⟩
        rw [← lines, DenseMatrix.getElem?_toRows, DenseMatrix.bind_rowAt?]
      · cases failed.symm.trans made
  · intro m i j
    exact ⟨m.isSome_cell?_iff i j, m.bind_rowAt? i j, m.entryAt_eq_ok_iff i j,
      fun row col => (m.cell?_eq_getElem? row col).symm⟩
  · intro a b
    have combined : ∀ (operation : Operation) (f : Scalar Float → Scalar Float → Scalar Float),
        (∃ m, DenseMatrix.zipWith operation f a b = .ok m) ↔ a.shape = b.shape := by
      intro operation f
      exact exists_ok_iff ((DenseMatrix.zipWith_cases operation f a b).imp
        (fun ⟨same, m, made, _⟩ => ⟨same, m, made⟩) fun ⟨apart, failed⟩ => ⟨apart, _, failed⟩)
    have squares : (a.rows = a.cols ∧ b.rows = b.cols ∧ a.rows = b.rows) ↔
        a.rows = a.cols ∧ a.shape = b.shape := by
      rw [DenseMatrix.shape_eq_iff]
      omega
    refine ⟨combined .add (· + ·), combined .subtract (· - ·), ?_, ?_, ?_, ?_, rfl,
      a.cell?_tensor b⟩
    · exact exists_ok_iff ((a.multiply_cases b).imp
        (fun ⟨fits, m, made, _⟩ => ⟨fits, m, made⟩) fun ⟨apart, failed⟩ => ⟨apart, _, failed⟩)
    · intro m made
      obtain ⟨-, n, same, shape⟩ | ⟨-, failed⟩ := a.multiply_cases b
      · cases same.symm.trans made
        exact shape
      · cases failed.symm.trans made
    · exact exists_ok_iff (a.trace_cases.imp id fun ⟨uneven, failed⟩ => ⟨uneven, _, failed⟩)
    · rw [squares]
      exact exists_ok_iff ((a.innerProduct_cases b).imp id
        fun ⟨apart, failed⟩ => ⟨apart, _, failed⟩)

/-- Two Hadamard gates side by side and behind them a controlled negation, applied to a column. -/
theorem matrices_keep_shape_circuit :
    let circuit : Formula := .binary .multiply (.source (.gate .cnot))
      (.binary .tensor (.source (.gate .hadamard)) (.source (.gate .hadamard)))
    let f : Formula := .binary .multiply circuit (.source (.column #[1, 0, 0, 0]))
    ∃ m, f.value? = some m ∧ m.cells.size = m.rows * m.cols ∧ m.shape = ⟨4, 1⟩ := by
  intro circuit f
  have shaped : f.value?.map DenseMatrix.shape = some ⟨4, 1⟩ := map_shape_value? rfl
  obtain ⟨m, valued, shape⟩ := Option.map_eq_some_iff.mp shaped
  obtain ⟨obtained, -⟩ := matrices_keep_shape
  obtain ⟨-, -, size, -⟩ := obtained f m valued
  exact ⟨m, valued, size, shape⟩

end Formula

end QuantumAssembler
