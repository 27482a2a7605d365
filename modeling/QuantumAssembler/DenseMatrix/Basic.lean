import QuantumAssembler.Algebra.Failure
import QuantumAssembler.Scalar.Written

/-!
Module: QuantumAssembler.DenseMatrix.Basic
Purpose: Rectangular matrices with at least one row and one column, stored row by row. A matrix is
  seen through its entries: `ofFn` builds one from its entries, and two matrices of one shape with
  the same entries are equal. The constructors from rows and from a flat sequence refuse cells that
  do not fill the shape asked for. A matrix of scalars is written as its rows in brackets.
Main exports: DenseMatrix, DenseMatrix.entry, DenseMatrix.ofFn, DenseMatrix.entry_ofFn,
  DenseMatrix.ofRows, DenseMatrix.ofFlat, DenseMatrix.zeros, DenseMatrix.column, DenseMatrix.row,
  DenseMatrix.identity, DenseMatrix.cellTexts, DenseMatrix.text
-/

namespace QuantumAssembler

universe u v

/-- The place of the cell in row `i` and column `j` is inside the stored cells. -/
theorem rowMajor_lt {rows cols i j : Nat} (hi : i < rows) (hj : j < cols) :
    i * cols + j < rows * cols :=
  calc i * cols + j < i * cols + cols := Nat.add_lt_add_left hj _
    _ = (i + 1) * cols := (Nat.succ_mul i cols).symm
    _ ≤ rows * cols := Nat.mul_le_mul_right cols hi

/-- A matrix of cells in `κ`, row by row. -/
structure DenseMatrix (κ : Type u) where
  rows : Nat
  cols : Nat
  cells : Array κ
  rows_pos : 0 < rows
  cols_pos : 0 < cols
  size_cells : cells.size = rows * cols

namespace DenseMatrix

variable {κ : Type u} {μ : Type v}

/-- Matrices are equal if their shapes are and their cells are, one by one. -/
instance [BEq κ] : BEq (DenseMatrix κ) :=
  ⟨fun a b => a.rows == b.rows && a.cols == b.cols && a.cells == b.cells⟩

/-- The shape of a matrix. -/
def shape (m : DenseMatrix κ) : Shape :=
  ⟨m.rows, m.cols⟩

/-- The entry in row `i` and column `j`. -/
def entry (m : DenseMatrix κ) (i : Fin m.rows) (j : Fin m.cols) : κ :=
  have inside : i * m.cols + j < m.cells.size := m.size_cells ▸ rowMajor_lt i.isLt j.isLt
  m.cells[i * m.cols + j]

/-- The matrix with the given entries. -/
def ofFn (rows cols : Nat) (rows_pos : 0 < rows) (cols_pos : 0 < cols)
    (f : Fin rows → Fin cols → κ) : DenseMatrix κ where
  rows := rows
  cols := cols
  cells := Array.ofFn fun k : Fin (rows * cols) =>
    f ⟨k / cols, (Nat.div_lt_iff_lt_mul cols_pos).2 k.isLt⟩ ⟨k % cols, Nat.mod_lt _ cols_pos⟩
  rows_pos := rows_pos
  cols_pos := cols_pos
  size_cells := Array.size_ofFn

/-! ### The view through entries -/

@[simp] theorem rows_ofFn {rows cols : Nat} {hr : 0 < rows} {hc : 0 < cols}
    (f : Fin rows → Fin cols → κ) : (ofFn rows cols hr hc f).rows = rows := rfl

@[simp] theorem cols_ofFn {rows cols : Nat} {hr : 0 < rows} {hc : 0 < cols}
    (f : Fin rows → Fin cols → κ) : (ofFn rows cols hr hc f).cols = cols := rfl

/-- The entries of a matrix built from entries are these. -/
@[simp] theorem entry_ofFn {rows cols : Nat} {hr : 0 < rows} {hc : 0 < cols}
    (f : Fin rows → Fin cols → κ) (i : Fin rows) (j : Fin cols) :
    (ofFn rows cols hr hc f).entry i j = f i j := by
  have quotient : (i.val * cols + j.val) / cols = i.val := by
    rw [Nat.mul_comm, Nat.mul_add_div hc, Nat.div_eq_of_lt j.isLt, Nat.add_zero]
  have remainder : (i.val * cols + j.val) % cols = j.val := by
    rw [Nat.mul_comm, Nat.mul_add_mod, Nat.mod_eq_of_lt j.isLt]
  simp only [entry, ofFn, Array.getElem_ofFn]
  congr 1
  · exact Fin.ext quotient
  · exact Fin.ext remainder

/-- A matrix is the one built from its own entries. -/
theorem ofFn_entry (m : DenseMatrix κ) : ofFn m.rows m.cols m.rows_pos m.cols_pos m.entry = m := by
  obtain ⟨rows, cols, cells, rows_pos, cols_pos, size_cells⟩ := m
  simp only [ofFn, entry, DenseMatrix.mk.injEq, true_and]
  apply Array.ext
  · rw [Array.size_ofFn, size_cells]
  · intro k _ _
    rw [Array.getElem_ofFn]
    congr 1
    exact Nat.div_add_mod' k cols

/-! ### Access -/

/-- The entry in a row and column, if both are inside the matrix. -/
def cell? (m : DenseMatrix κ) (row col : Nat) : Option κ :=
  if h : row < m.rows ∧ col < m.cols then some (m.entry ⟨row, h.1⟩ ⟨col, h.2⟩) else none

/-- The entry in a row and column, which have to be inside the matrix. -/
def entryAt (m : DenseMatrix κ) (row col : Nat) : Except AlgebraFailure κ :=
  match m.cell? row col with
  | some cell => .ok cell
  | none => .error (.noSuchEntry row col m.shape)

/-- The cells of one row. -/
def rowCells (m : DenseMatrix κ) (i : Fin m.rows) : List κ :=
  List.ofFn fun j => m.entry i j

/-- The cells of a row, if it is inside the matrix. -/
def rowAt? (m : DenseMatrix κ) (row : Nat) : Option (List κ) :=
  if h : row < m.rows then some (m.rowCells ⟨row, h⟩) else none

/-- The cells, row by row. -/
def toRows (m : DenseMatrix κ) : List (List κ) :=
  List.ofFn m.rowCells

/-- The matrix with a function applied to every cell. -/
def map (f : κ → μ) (m : DenseMatrix κ) : DenseMatrix μ where
  rows := m.rows
  cols := m.cols
  cells := m.cells.map f
  rows_pos := m.rows_pos
  cols_pos := m.cols_pos
  size_cells := by rw [Array.size_map, m.size_cells]

@[simp] theorem rows_map (f : κ → μ) (m : DenseMatrix κ) : (m.map f).rows = m.rows := rfl

@[simp] theorem cols_map (f : κ → μ) (m : DenseMatrix κ) : (m.map f).cols = m.cols := rfl

@[simp] theorem entry_map (f : κ → μ) (m : DenseMatrix κ) (i : Fin m.rows) (j : Fin m.cols) :
    (m.map f).entry i j = f (m.entry i j) := by
  simp [entry, map]

/-- Whether the matrix has one column. -/
def isColumn (m : DenseMatrix κ) : Bool :=
  m.cols == 1

/-- Whether the matrix has as many rows as columns. -/
def isSquare (m : DenseMatrix κ) : Bool :=
  m.rows == m.cols

/-! ### Construction -/

/-- The matrix of a flat sequence of cells, row by row. -/
def ofFlat (rows cols : Nat) (cells : Array κ) : Except AlgebraFailure (DenseMatrix κ) :=
  if h : 0 < rows ∧ 0 < cols ∧ cells.size = rows * cols then
    .ok ⟨rows, cols, cells, h.1, h.2.1, h.2.2⟩
  else .error (.shapeMismatch .construct ⟨rows, cols⟩ ⟨cells.size / max cols 1, cols⟩)

/-- Rows of equal length, put one behind the other, have this many cells. -/
theorem length_flatten_of_forall {grid : List (List κ)} {cols : Nat}
    (h : ∀ line ∈ grid, line.length = cols) : grid.flatten.length = grid.length * cols := by
  induction grid with
  | nil => simp
  | cons line others ih =>
    rw [List.flatten_cons, List.length_append, h line List.mem_cons_self,
      ih fun l hl => h l (List.mem_cons_of_mem _ hl), List.length_cons, Nat.succ_mul, Nat.add_comm]

/-- The matrix of a grid of rows. The number of rows is judged first, then the length of each row in
    turn; the failure reports the first row that is to blame. -/
def ofRows (rows cols : Nat) (grid : List (List κ)) : Except AlgebraFailure (DenseMatrix κ) :=
  if h : 0 < rows ∧ 0 < cols ∧ grid.length = rows then
    match even : grid.find? fun line => line.length != cols with
    | some line => .error (.shapeMismatch .construct ⟨rows, cols⟩ ⟨grid.length, line.length⟩)
    | none =>
      .ok
        { rows, cols
          cells := grid.flatten.toArray
          rows_pos := h.1
          cols_pos := h.2.1
          size_cells := by
            have all : ∀ line ∈ grid, line.length = cols := by simpa using even
            rw [List.size_toArray, length_flatten_of_forall all, h.2.2] }
  else
    .error (.shapeMismatch .construct ⟨rows, cols⟩
      ⟨grid.length, (grid.head?.map List.length).getD 0⟩)

/-- The matrix of zeros. -/
def zeros [Zero κ] (rows cols : Nat) : Except AlgebraFailure (DenseMatrix κ) :=
  ofFlat rows cols (Array.replicate (rows * cols) 0)

/-- The matrix of one column. -/
def column (cells : Array κ) : Except AlgebraFailure (DenseMatrix κ) :=
  ofFlat cells.size 1 cells

/-- The matrix of one row. -/
def row (cells : Array κ) : Except AlgebraFailure (DenseMatrix κ) :=
  ofFlat 1 cells.size cells

/-- The square matrix with ones on the diagonal and zeros elsewhere. -/
def diagonal [Zero κ] [One κ] (size : Nat) (size_pos : 0 < size) : DenseMatrix κ :=
  ofFn size size size_pos size_pos fun i j => if i = j then 1 else 0

/-- The identity matrix of a size; there is none of size nought. -/
def identity [Zero κ] [One κ] (size : Nat) : Except AlgebraFailure (DenseMatrix κ) :=
  if h : 0 < size then .ok (diagonal size h)
  else .error (.shapeMismatch .construct ⟨size, size⟩ ⟨0, size⟩)

/-! ### Text -/

section Text

variable {α : Type u} [Zero α] [One α] [Neg α] [BEq α] [LT α] [DecidableLT α] [Spelled α]

/-- The texts of the cells, row by row. -/
def cellTexts (m : DenseMatrix (Scalar α)) : List (List String) :=
  m.toRows.map fun cells => cells.map Scalar.text

/-- Texts in brackets, with commas between them. -/
def bracketed (texts : List String) : String :=
  "[" ++ ", ".intercalate texts ++ "]"

/-- The text of a matrix. -/
def text (m : DenseMatrix (Scalar α)) : String :=
  bracketed (m.cellTexts.map bracketed)

end Text

end DenseMatrix

end QuantumAssembler
