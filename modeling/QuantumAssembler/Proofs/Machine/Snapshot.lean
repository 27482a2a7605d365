import QuantumAssembler.Machine.Report
import QuantumAssembler.Proofs.DenseMatrix.Storage
import QuantumAssembler.Proofs.Machine.BitMachine
import QuantumAssembler.Proofs.Machine.RegisterShape

/-!
Module: QuantumAssembler.Proofs.Machine.Snapshot
Purpose: What a snapshot shows. A register that was filled and a variable that was set are seen in it
  as the texts of their cells; nothing else in the snapshot changes. A matrix that shows bits is seen
  as a grid of digits, which are the bits again, row by row.
Main exports: ShowsDigits, ShowsBits.showsDigits, State.snapshot_filled, State.snapshot_setVariable
-/

namespace QuantumAssembler

/-! ### Digits -/

/-- A grid of texts shows a text of digits if it has the given shape and one digit in each cell, row
    by row. So the texts of its cells, put together, are the digits. -/
structure ShowsDigits (rows cols : Nat) (digits : String) (grid : List (List String)) : Prop where
  rows_eq : grid.length = rows
  cols_eq : ∀ line ∈ grid, line.length = cols
  cells_eq : grid.flatten = digits.toList.map String.singleton
  join_eq : String.join grid.flatten = digits

/-- The digits of a row of bits. -/
def digitsOf (bits : List Bool) : String :=
  String.ofList (bits.map fun bit => if bit then '1' else '0')

theorem text_bitCell (bit : Bool) :
    (bitCell bit).text = String.singleton (if bit then '1' else '0') := by
  cases bit with
  | false => rfl
  | true => decide +kernel

theorem join_map_singleton (cs : List Char) :
    String.join (cs.map String.singleton) = String.ofList cs := by
  rw [← String.toList_inj, String.toList_join, List.flatMap_map, String.toList_ofList]
  simp

/-- Bits that were read from digits are written as these digits. -/
theorem digitsOf_map {cs : List Char} (all : ∀ c ∈ cs, c = '0' ∨ c = '1') :
    digitsOf (cs.map (· == '1')) = String.ofList cs := by
  rw [digitsOf, List.map_map]
  refine congrArg String.ofList (List.map_congr_left ?_ |>.trans (List.map_id cs))
  intro c member
  rcases all c member with rfl | rfl
  · rfl
  · rfl

/-- The texts of the cells of a matrix that shows bits show their digits. -/
theorem ShowsBits.showsDigits {rows cols : Nat} {bits : List Bool} {m : FloatMatrix}
    (shown : ShowsBits rows cols bits m) :
    ShowsDigits rows cols (digitsOf bits) m.cellTexts := by
  have cells : m.cellTexts.flatten = (digitsOf bits).toList.map String.singleton := by
    rw [DenseMatrix.cellTexts, ← List.map_flatten, m.flatten_toRows, shown.cells_eq, digitsOf,
      String.toList_ofList, List.map_map, List.map_map]
    apply List.map_congr_left
    intro bit _
    exact text_bitCell bit
  refine ⟨?_, ?_, cells, ?_⟩
  · rw [DenseMatrix.cellTexts, List.length_map, m.length_toRows, shown.rows_eq]
  · intro line member
    obtain ⟨held, inside, rfl⟩ := List.mem_map.mp member
    rw [List.length_map, DenseMatrix.length_of_mem_toRows inside, shown.cols_eq]
  · rw [cells, join_map_singleton, String.ofList_toList]

/-! ### What changes in a snapshot -/

theorem lookup_map_snd {β γ : Type} (f : β → γ) (name : String) (bindings : List (String × β)) :
    (bindings.map fun (key, held) => (key, f held)).lookup name =
      (bindings.lookup name).map f := by
  induction bindings with
  | nil => rfl
  | cons first rest ih =>
      obtain ⟨key, held⟩ := first
      simp only [List.map_cons, List.lookup_cons, ih]
      cases name == key <;> rfl

namespace State

theorem registers_snapshot (s : State) (register : Nat) :
    s.snapshot.registers[register]? =
      s.registers[register]?.map fun content => content.map DenseMatrix.cellTexts := by
  simp [snapshot]

theorem environment_snapshot (s : State) (name : String) :
    s.snapshot.environment.lookup name = (s.environment.get? name).map Value.cellTexts :=
  lookup_map_snd _ _ _

/-- A register that is filled shows the cells that it is filled with; the rest of the snapshot stays
    as it is. -/
theorem snapshot_filled {s : State} {register : Nat} (inside : register < s.registers.size)
    (m : FloatMatrix) :
    (s.filled register m).snapshot.side = s.snapshot.side ∧
    (s.filled register m).snapshot.environment = s.snapshot.environment ∧
    (s.filled register m).snapshot.registers.length = s.snapshot.registers.length ∧
    ∀ other, (s.filled register m).snapshot.registers[other]? =
      if other = register then some (some m.cellTexts) else s.snapshot.registers[other]? := by
  refine ⟨rfl, rfl, by simp [snapshot, filled], fun other => ?_⟩
  rw [registers_snapshot, getElem?_filled inside, registers_snapshot]
  split <;> rfl

/-- A variable that is set shows the cells of its value; the rest of the snapshot stays as it is. -/
theorem snapshot_setVariable (s : State) (name : String) (value : Value) :
    (s.setVariable name value).snapshot.side = s.snapshot.side ∧
    (s.setVariable name value).snapshot.registers = s.snapshot.registers ∧
    ∀ other, (s.setVariable name value).snapshot.environment.lookup other =
      if other = name then some value.cellTexts else s.snapshot.environment.lookup other := by
  refine ⟨rfl, rfl, fun other => ?_⟩
  rw [environment_snapshot, setVariable, Variables.get?_set, environment_snapshot]
  split <;> rfl

end State

end QuantumAssembler
