import Mathlib.Data.List.OfFn
import Mathlib.Data.List.Flatten
import QuantumAssembler.DenseMatrix.Basic

/-!
Module: QuantumAssembler.Proofs.DenseMatrix.Storage
Purpose: Where the entries of a matrix lie among its stored cells: the entry in row `i` and column `j`
  is the cell at `i * cols + j`. So the rows put one behind the other are the cells, and each way of
  looking at an entry finds the same cell. A matrix can be made of a grid exactly if this fills the
  shape asked for, and then its rows are the grid.
Main exports: flatten_toRows, getElem?_toRows, cell?_eq_getElem?, bind_rowAt?, entryAt_eq_ok_iff,
  cell?_ofFn, FillsShape, ofRows_cases
-/

namespace QuantumAssembler.DenseMatrix

universe u

variable {κ : Type u}

/-! ### Rows -/

theorem length_toRows (m : DenseMatrix κ) : m.toRows.length = m.rows :=
  List.length_ofFn

theorem length_rowCells (m : DenseMatrix κ) (i : Fin m.rows) : (m.rowCells i).length = m.cols :=
  List.length_ofFn

theorem length_of_mem_toRows {m : DenseMatrix κ} {line : List κ} (member : line ∈ m.toRows) :
    line.length = m.cols := by
  obtain ⟨i, rfl⟩ := (List.mem_ofFn' _ _).mp member
  exact m.length_rowCells i

/-- The rows, one behind the other, are the stored cells. -/
theorem flatten_toRows (m : DenseMatrix κ) : m.toRows.flatten = m.cells.toList := by
  have within (k : Fin (m.rows * m.cols)) : k.val < m.cells.size := by
    rw [m.size_cells]
    exact k.isLt
  have stored : m.cells.toList = List.ofFn fun k =>
      have inside := within k
      m.cells[k.val] := by
    apply List.ext_getElem
    · simp [m.size_cells]
    · simp
  rw [stored, List.ofFn_mul]
  rfl

/-- The rows are counted from nought. -/
theorem getElem?_toRows (m : DenseMatrix κ) (i : Nat) : m.toRows[i]? = m.rowAt? i := by
  rw [toRows, List.getElem?_ofFn, rowAt?]

/-! ### Entries -/

theorem isSome_cell?_iff (m : DenseMatrix κ) (i j : Nat) :
    (m.cell? i j).isSome ↔ i < m.rows ∧ j < m.cols := by
  unfold cell?
  split <;> simp_all

/-- An entry lies behind the cells of all rows above it and those to the left of it. -/
theorem cell?_eq_getElem? (m : DenseMatrix κ) {i j : Nat} (row : i < m.rows) (col : j < m.cols) :
    m.cell? i j = m.cells[i * m.cols + j]? := by
  have inside : i * m.cols + j < m.cells.size := m.size_cells ▸ rowMajor_lt row col
  rw [cell?, dif_pos ⟨row, col⟩, Array.getElem?_eq_getElem inside, entry]

/-- An entry is found in its row. -/
theorem bind_rowAt? (m : DenseMatrix κ) (i j : Nat) :
    (m.rowAt? i).bind (·[j]?) = m.cell? i j := by
  by_cases row : i < m.rows
  · rw [rowAt?, dif_pos row, Option.bind_some, rowCells, List.getElem?_ofFn, cell?]
    by_cases col : j < m.cols
    · rw [dif_pos col, dif_pos ⟨row, col⟩]
    · rw [dif_neg col, dif_neg fun inside => col inside.2]
  · rw [rowAt?, dif_neg row, cell?, dif_neg fun inside => row inside.1, Option.bind_none]

/-- An entry can be asked for by its place exactly if there is one. -/
theorem entryAt_eq_ok_iff (m : DenseMatrix κ) (i j : Nat) (cell : κ) :
    m.entryAt i j = .ok cell ↔ m.cell? i j = some cell := by
  unfold entryAt
  split <;> simp_all

theorem cell?_ofFn {rows cols : Nat} {rows_pos : 0 < rows} {cols_pos : 0 < cols}
    (f : Fin rows → Fin cols → κ) (i j : Nat) :
    (ofFn rows cols rows_pos cols_pos f).cell? i j =
      if inside : i < rows ∧ j < cols then some (f ⟨i, inside.1⟩ ⟨j, inside.2⟩) else none := by
  unfold cell?
  split
  · rename_i inside
    rw [dif_pos (show i < rows ∧ j < cols from inside)]
    exact congrArg some (entry_ofFn f ⟨i, inside.1⟩ ⟨j, inside.2⟩)
  · rename_i outside
    rw [dif_neg (show ¬(i < rows ∧ j < cols) from outside)]

/-! ### Grids -/

/-- A grid fills a shape if this is not empty and the grid has as many rows, each of them with a
    cell for every column. -/
def FillsShape (rows cols : Nat) (grid : List (List κ)) : Prop :=
  0 < rows ∧ 0 < cols ∧ grid.length = rows ∧ ∀ line ∈ grid, line.length = cols

instance (rows cols : Nat) (grid : List (List κ)) : Decidable (FillsShape rows cols grid) :=
  inferInstanceAs (Decidable (_ ∧ _))

/-- A grid with the shape and the cells of a matrix has its rows. -/
theorem eq_of_flatten_toRows {m : DenseMatrix κ} {grid : List (List κ)}
    (height : m.rows = grid.length) (even : ∀ line ∈ grid, line.length = m.cols)
    (cells : m.cells.toList = grid.flatten) : m.toRows = grid := by
  have widths : ∀ rows : List (List κ), (∀ line ∈ rows, line.length = m.cols) →
      rows.map List.length = List.replicate rows.length m.cols := by
    intro rows same
    rw [List.eq_replicate_iff]
    simpa using same
  rw [List.eq_iff_flatten_eq, flatten_toRows, cells, widths _ fun _ => length_of_mem_toRows,
    widths _ even, length_toRows, height]
  exact ⟨rfl, rfl⟩

/-- A matrix is made of a grid that fills the shape, and its rows are then the grid. Any other grid is
    refused with the shape that was asked for. -/
theorem ofRows_cases (rows cols : Nat) (grid : List (List κ)) :
    (FillsShape rows cols grid ∧ ∃ m, ofRows rows cols grid = .ok m ∧ m.shape = ⟨rows, cols⟩ ∧
        m.toRows = grid) ∨
      (¬ FillsShape rows cols grid ∧ ∃ found,
        ofRows rows cols grid = .error (.shapeMismatch .construct ⟨rows, cols⟩ found)) := by
  unfold ofRows
  split
  · rename_i some
    split
    · rename_i line found
      have uneven := List.find?_some found
      refine .inr ⟨?_, _, rfl⟩
      rintro ⟨-, -, -, all⟩
      simp [all line (List.mem_of_find?_eq_some found)] at uneven
    · rename_i even
      have all : ∀ line ∈ grid, line.length = cols := by simpa using even
      exact .inl ⟨⟨some.1, some.2.1, some.2.2, all⟩, _, rfl, rfl,
        eq_of_flatten_toRows some.2.2.symm all rfl⟩
  · rename_i none
    exact .inr ⟨fun fills => none ⟨fills.1, fills.2.1, fills.2.2.1⟩, _, rfl⟩

end QuantumAssembler.DenseMatrix
