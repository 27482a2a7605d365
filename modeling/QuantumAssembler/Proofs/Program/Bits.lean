import QuantumAssembler.Proofs.Machine.Snapshot
import QuantumAssembler.Proofs.Program.Listing

/-!
Module: QuantumAssembler.Proofs.Program.Bits
Purpose: Bits that a program writes into a register are the bits that are seen in it and that can be
  copied out of it. A program of two lines fills a register with a text of digits and selects a
  stretch of it; afterwards the register shows the digits, the variable shows the stretch, and
  nothing else in the snapshot of the computer has changed.
Main exports: State.carryOut_load_digits, State.carryOut_select_bits, stretch, fillAndSelect,
  fillAndSelect_eq_listing, ShowsCopy, Computer.Reachable.bits_in_bits_out
-/

namespace QuantumAssembler

namespace State

variable {s : State} {digits : String}

/-- Digits that fill a register are shown by what is put into it. -/
theorem carryOut_load_digits (positive : 0 < s.side) (countable : s.side * s.side < cellBound)
    (fills : FillsRegister s.side digits) {register : Nat} (inside : register < s.registers.size)
    (trace : Bool) :
    ∃ m, s.carryOut trace (.load register (some digits)) = .ok (s.filled register m) ∧
      ShowsBits s.side s.side (bitsOf digits) m := by
  obtain ⟨m, made, shown⟩ := registerOfBits_of_fills positive countable fills
  refine ⟨m, ?_, shown⟩
  rw [carryOut_load (some digits) made, load, if_pos inside]
  rfl

/-- A stretch of a register that shows bits is shown by what is put into the variable. -/
theorem carryOut_select_bits {bits : List Bool} {m : FloatMatrix}
    (countable : s.side * s.side < cellBound)
    (shown : ShowsBits s.side s.side bits m) {register : Nat}
    (held : s.registers[register]? = some (some m)) {offset number : Nat} (nonempty : 1 ≤ number)
    (inside : offset + number ≤ s.side * s.side) (trace : Bool) (name : String) :
    ∃ row, s.carryOut trace (.select name register offset number) =
        .ok (s.setVariable name (.matrix row)) ∧
      ShowsBits 1 number ((bits.drop offset).take number) row := by
  have length : bits.length = s.side * s.side := by
    rw [← List.length_map bitCell, ← shown.cells_eq, Array.length_toList, m.size_cells,
      shown.rows_eq, shown.cols_eq]
  have selected : ((bits.drop offset).take number).length = number := by
    rw [List.length_take, List.length_drop]
    omega
  have enough : offset + number ≤ m.cells.size := by
    rw [m.size_cells, shown.rows_eq, shown.cols_eq]
    exact inside
  have found : s.register register = .ok (some m) := by rw [State.register, held]
  obtain ⟨row, made, other, same, shownRow⟩ := shown.row length nonempty inside
  cases same
  rw [selected] at shownRow
  have counted : offset + number ≤ s.registerSize := registerSize_eq countable ▸ inside
  exact ⟨row, carryOut_select_of_row found ⟨nonempty, counted⟩ enough made trace name, shownRow⟩

end State

/-- The characters of a text from a place on, as many as asked for. -/
def stretch (text : String) (offset number : Nat) : String :=
  String.ofList ((text.toList.drop offset).take number)

/-- The bits of a stretch of digits are written as this stretch. -/
theorem digitsOf_stretch {side : Nat} {digits : String} (fills : FillsRegister side digits)
    (offset number : Nat) :
    digitsOf (((bitsOf digits).drop offset).take number) = stretch digits offset number := by
  rw [bitsOf, ← List.map_drop, ← List.map_take, stretch]
  apply digitsOf_map
  intro c member
  exact fills.2 c (List.mem_of_mem_drop (List.mem_of_mem_take member))

theorem digitsOf_bitsOf {side : Nat} {digits : String} (fills : FillsRegister side digits) :
    digitsOf (bitsOf digits) = digits := by
  rw [bitsOf, digitsOf_map fills.2, String.ofList_toList]

/-- The program that fills a register with digits and copies a stretch of it into a variable. -/
def fillAndSelect (register : Nat) (digits name : String) (offset number : Nat) : String :=
  "INITIALIZE R" ++ toString register ++ " [" ++ digits ++ "]\n" ++
    "SELECT " ++ name ++ " R" ++ toString register ++ " " ++ toString offset ++ " " ++
      toString number

theorem fillAndSelect_eq_listing (register : Nat) (digits name : String) (offset number : Nat) :
    fillAndSelect register digits name offset number =
      listing [.load register (some digits), .select name register offset number] := by
  have load : "INITIALIZE R" = "INITIALIZE" ++ (" " ++ "R") := by rfl
  have bits : " [" = " " ++ "[" := by rfl
  have ending : "]\n" = "]" ++ "\n" := by rfl
  have select : "SELECT " = "SELECT" ++ " " := by rfl
  have source : " R" = " " ++ "R" := by rfl
  unfold fillAndSelect
  rw [load, bits, ending, select, source]
  simp only [listing, Instruction.line, Instruction.sentence, spaced, TokenKind.spelling,
    Keyword.word, String.append_assoc]

theorem wellFormed_fillAndSelect {side count register offset number : Nat} {digits name : String}
    (exist : register < count) (fewRegisters : IsNumber count) (fewCells : IsNumber (side * side))
    (positive : 0 < side) (fills : FillsRegister side digits) (free : IsVariableName name)
    (inside : offset + number ≤ side * side) :
    ∀ i ∈ [Instruction.load register (some digits), .select name register offset number],
      i.WellFormed := by
  intro i member
  have registerFits : IsNumber register := Nat.lt_trans exist fewRegisters
  have cells : digits.toList ≠ [] := by
    intro none
    have length := fills.1
    rw [← String.length_toList, none, List.length_nil] at length
    exact absurd length (Nat.mul_pos positive positive).ne
  simp only [List.mem_cons, List.not_mem_nil, or_false] at member
  rcases member with rfl | rfl
  · exact ⟨registerFits, cells, fills.2⟩
  · exact ⟨free, registerFits, Nat.lt_of_le_of_lt (by omega) fewCells,
      Nat.lt_of_le_of_lt (by omega) fewCells⟩

/-- How the snapshot of a computer changes when a register is filled with digits and a stretch of it
    is copied into a variable. -/
structure ShowsCopy (side register : Nat) (digits name : String) (offset number : Nat)
    (before after : Snapshot) : Prop where
  side_eq : after.side = before.side
  length_eq : after.registers.length = before.registers.length
  register_eq : ∃ grid, after.registers[register]? = some (some grid) ∧
    ShowsDigits side side digits grid
  binding_eq : ∃ grid, after.environment.lookup name = some grid ∧
    ShowsDigits 1 number (stretch digits offset number) grid
  registers_eq : ∀ other, other ≠ register → after.registers[other]? = before.registers[other]?
  bindings_eq : ∀ other, other ≠ name →
    after.environment.lookup other = before.environment.lookup other

namespace Computer

variable {side count : Nat} {trace : Bool} {c : Computer}

/-- On a reachable computer, a register is filled with digits and a stretch of it is copied, by a
    program of two lines. The run succeeds; the snapshot then shows the digits in the register, row
    by row, and the stretch in the variable, in one row, and everything else in it is what it was. -/
theorem bits_in_bits_out [NormalForm] (ascii : NormalForm.KeepsAscii)
    (reached : Reachable side count trace c) (fewRegisters : IsNumber count)
    (fewCells : IsNumber (side * side)) {register offset number : Nat} {digits name : String}
    (exist : register < count) (fills : FillsRegister side digits) (free : IsVariableName name)
    (nonempty : 1 ≤ number) (inside : offset + number ≤ side * side) :
    (runSource c (fillAndSelect register digits name offset number)).outcome = .ok 2 ∧
    ShowsCopy side register digits name offset number c.state.snapshot
      (runSource c (fillAndSelect register digits name offset number)).computer.state.snapshot := by
  have standard := reached.isStandard
  obtain ⟨positive, machine, shows⟩ := reached.exists_shows fewCells
  obtain rfl := shows.side_eq
  have within : register < c.state.registers.size := shows.size_eq ▸ exist
  -- What the two instructions do to the state.
  obtain ⟨m, loads, shownRegister⟩ := c.state.carryOut_load_digits positive fewCells fills within trace
  have held : (c.state.filled register m).registers[register]? = some (some m) := by
    rw [State.getElem?_filled within, if_pos rfl]
  obtain ⟨row, selects, shownRow⟩ := State.carryOut_select_bits
    (s := c.state.filled register m) fewCells shownRegister held nonempty inside trace name
  obtain ⟨first, firstSucceeds⟩ := standard.execute_of_carryOut loads
  have filledStandard : IsStandard trace { c with state := c.state.filled register m } := standard
  obtain ⟨second, secondSucceeds⟩ := filledStandard.execute_of_carryOut selects
  -- The program is the listing of these instructions, so it executes them.
  have succeeds : ∀ e ∈ c.executions
      [.load register (some digits), .select name register offset number], e.outcome = .ok () := by
    simp only [executions, first, List.mem_cons, List.not_mem_nil, or_false]
    rintro e (rfl | rfl)
    · exact firstSucceeds
    · exact secondSucceeds
  obtain ⟨outcome, ends⟩ := runSource_listing ascii
    (wellFormed_fillAndSelect exist fewRegisters fewCells positive fills free inside) succeeds
  rw [← fillAndSelect_eq_listing] at outcome ends
  simp only [List.foldl_cons, List.foldl_nil, first, second] at ends
  -- What is seen of these changes.
  obtain ⟨-, sameNames, sameCount, registers⟩ := State.snapshot_filled within m
  obtain ⟨-, sameRegisters, names⟩ :=
    (c.state.filled register m).snapshot_setVariable name (.matrix row)
  have inRegister := shownRegister.showsDigits
  have inVariable := shownRow.showsDigits
  rw [digitsOf_bitsOf fills] at inRegister
  rw [digitsOf_stretch fills] at inVariable
  refine ⟨outcome, ?_⟩
  rw [ends]
  constructor
  · exact rfl
  · rw [sameRegisters, sameCount]
  · refine ⟨m.cellTexts, ?_, inRegister⟩
    rw [sameRegisters, registers, if_pos rfl]
  · refine ⟨row.cellTexts, ?_, inVariable⟩
    rw [names, if_pos rfl]
    rfl
  · intro other apart
    rw [sameRegisters, registers, if_neg apart]
  · intro other apart
    rw [names, if_neg apart, sameNames]

/-- The middle of four bits is copied out of a register that held zeros before. -/
theorem bits_in_bits_out_two_rows :
    let c : Computer := (execute ⟨.fresh 2 2, .standard false⟩ (.load 0 none)).computer
    NormalForm.KeepsAscii ∧ Reachable 2 2 false c ∧ stretch "0110" 1 2 = "11" ∧
      fillAndSelect 0 "0110" "v" 1 2 = "INITIALIZE R0 [0110]\nSELECT v R0 1 2" ∧
      (runSource c (fillAndSelect 0 "0110" "v" 1 2)).outcome = .ok 2 ∧
      ShowsCopy 2 0 "0110" "v" 1 2 c.state.snapshot
        (runSource c (fillAndSelect 0 "0110" "v" 1 2)).computer.state.snapshot := by
  intro c
  have reached : Reachable 2 2 false c :=
    .execute (.start (standard_eq_ok (by decide) 2 false)) _
  exact ⟨Unicode.keepsAscii, reached, by decide, by decide,
    bits_in_bits_out Unicode.keepsAscii reached (by decide) (by decide) (by decide) (by decide)
      (by decide) (by decide) (by decide)⟩

end Computer

end QuantumAssembler
