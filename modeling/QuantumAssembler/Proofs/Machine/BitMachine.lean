import Mathlib.Data.List.Forall2
import QuantumAssembler.Proofs.Machine.Standard

/-!
Module: QuantumAssembler.Proofs.Machine.BitMachine
Purpose: A machine of bits that a standard computer is simulated by, instruction by instruction and
  over whole runs. The machine knows no matrices: a slot is empty or holds one bit for each cell of a
  register, and a name stands for a row of bits that is not empty. Which instructions it accepts,
  what they do and why others fail are three definitions of their own.
Main exports: BitMachine, BitMachine.Accepts, BitMachine.effect, BitMachine.fault, BitMachine.step,
  BitMachine.run, ShowsBits, Shows, Shows.agrees, ShowsStep, Shows.executions,
  Computer.Reachable.exists_shows
-/

namespace QuantumAssembler

/-! ### The machine of bits -/

/-- The slots and names of a machine of bits. -/
structure BitMachine (side count : Nat) where
  /-- A slot is empty or holds exactly one bit for each cell, row by row. -/
  slots : Fin count → Option { bits : List Bool // bits.length = side * side }
  names : String → Option { bits : List Bool // bits ≠ [] }

/-- The bits that a text of digits writes. -/
def bitsOf (digits : String) : List Bool :=
  digits.toList.map (· == '1')

/-- A text fills a register if it has one character for each cell and each of them is a bit. -/
def FillsRegister (side : Nat) (digits : String) : Prop :=
  digits.length = side * side ∧ ∀ c ∈ digits.toList, c = '0' ∨ c = '1'

instance (side : Nat) (digits : String) : Decidable (FillsRegister side digits) :=
  decidable_of_iff
    (digits.length = side * side ∧ digits.toList.all (fun c => c == '0' || c == '1') = true)
    (by simp [FillsRegister])

theorem length_bitsOf {side : Nat} {digits : String} (fills : FillsRegister side digits) :
    (bitsOf digits).length = side * side := by
  rw [bitsOf, List.length_map, String.length_toList, fills.1]

/-- Why a text does not fill a register: its length is judged first, then its characters. -/
def textFault? (side : Nat) (digits : String) : Option MachineFailure :=
  if digits.length = side * side then
    (digits.toList.find? fun c => !isBit c).map (.notABit digits)
  else some (.wrongBitCount digits (side * side) digits.length)

namespace BitMachine

variable {side count : Nat}

/-- Empty slots and no names. -/
def empty (side count : Nat) : BitMachine side count :=
  ⟨fun _ => none, fun _ => none⟩

/-- The content of a slot; a slot behind the last one has none. -/
def slot? (m : BitMachine side count) (register : Nat) :
    Option { bits : List Bool // bits.length = side * side } :=
  if inside : register < count then m.slots ⟨register, inside⟩ else none

/-- Puts bits into a slot. -/
def fill (m : BitMachine side count) (slot : Fin count)
    (bits : { bits : List Bool // bits.length = side * side }) : BitMachine side count :=
  { m with slots := fun other => if other = slot then some bits else m.slots other }

/-- Lets a name stand for bits. -/
def assign (m : BitMachine side count) (target : String)
    (bits : { bits : List Bool // bits ≠ [] }) : BitMachine side count :=
  { m with names := fun other => if other = target then some bits else m.names other }

/-- The instructions that succeed. -/
def Accepts (trace : Bool) (m : BitMachine side count) : Instruction → Prop
  | .load register none => register < count
  | .load register (some digits) => FillsRegister side digits ∧ register < count
  | .select _ register offset number =>
      register < count ∧ 1 ≤ number ∧ offset + number ≤ side * side ∧ (m.slot? register).isSome
  | _ => trace = true

instance (trace : Bool) (m : BitMachine side count) :
    (i : Instruction) → Decidable (m.Accepts trace i)
  | .load _ none => inferInstanceAs (Decidable (_ < _))
  | .load _ (some _) => inferInstanceAs (Decidable (_ ∧ _))
  | .select .. => inferInstanceAs (Decidable (_ ∧ _))
  | .apply .. | .concat .. | .tensor .. | .measure .. | .inverse .. =>
      inferInstanceAs (Decidable (_ = _))

/-- What an accepted instruction does. -/
def effect (trace : Bool) (m : BitMachine side count) :
    (i : Instruction) → m.Accepts trace i → BitMachine side count
  | .load register none, accepted =>
      m.fill ⟨register, accepted⟩ ⟨List.replicate (side * side) false, List.length_replicate⟩
  | .load register (some digits), accepted =>
      m.fill ⟨register, accepted.2⟩ ⟨bitsOf digits, length_bitsOf accepted.1⟩
  | .select target register offset number, accepted =>
      let content := (m.slot? register).get accepted.2.2.2
      m.assign target ⟨(content.val.drop offset).take number, by
        obtain ⟨-, some, fits, -⟩ := accepted
        have length := content.property
        intro none
        have := congrArg List.length none
        simp only [List.length_take, List.length_drop, List.length_nil] at this
        omega⟩
  | _, _ => m

/-- An accepted selection takes its bits from the slot. -/
theorem effect_select {m : BitMachine side count} {register : Nat}
    {bits : { bits : List Bool // bits.length = side * side }}
    (held : m.slot? register = some bits) {trace : Bool} {target : String} {offset number : Nat}
    (accepted : m.Accepts trace (.select target register offset number)) :
    ∃ nonempty, m.effect trace (.select target register offset number) accepted =
      m.assign target ⟨(bits.val.drop offset).take number, nonempty⟩ := by
  have content : (m.slot? register).get accepted.2.2.2 = bits := by simp [held]
  subst content
  exact ⟨_, rfl⟩

/-- Why an instruction that is not accepted fails: the first of its causes. -/
def fault (side count : Nat) : Instruction → MachineFailure
  | .load register none => .noSuchRegister register count
  | .load register (some digits) =>
      (textFault? side digits).getD (.noSuchRegister register count)
  | .select _ register offset number =>
      if ¬ register < count then .noSuchRegister register count
      else if ¬ (1 ≤ number ∧ offset + number ≤ side * side) then
        .selectionOutside register offset number (side * side)
      else .uninitialized register
  | other => .noHandler other.kind

/-- One instruction: the machine afterwards, and success or the cause of failure. -/
def step (trace : Bool) (m : BitMachine side count) (i : Instruction) :
    BitMachine side count × Except MachineFailure Unit :=
  if accepted : m.Accepts trace i then (m.effect trace i accepted, .ok ())
  else (m, .error (fault side count i))

/-- Instructions one after the other, going on after failures: what each of them leaves behind. -/
def run (trace : Bool) (m : BitMachine side count) :
    List Instruction → List (BitMachine side count × Except MachineFailure Unit)
  | [] => []
  | i :: rest => m.step trace i :: run trace (m.step trace i).1 rest

end BitMachine

/-! ### How a computer shows a machine of bits -/

/-- The cell that shows a bit. -/
def bitCell (bit : Bool) : Scalar Float :=
  if bit then 1 else 0

/-- A matrix shows a row of bits if it has the given shape and its cells, row by row, are those of
    the bits. -/
structure ShowsBits (rows cols : Nat) (bits : List Bool) (m : FloatMatrix) : Prop where
  rows_eq : m.rows = rows
  cols_eq : m.cols = cols
  cells_eq : m.cells.toList = bits.map bitCell

/-- A value shows a row of bits if it is a matrix of one row that does. -/
def ShowsRow (value : Value) (bits : List Bool) : Prop :=
  ∃ matrix, value = .matrix matrix ∧ ShowsBits 1 bits.length bits matrix

/-- A state shows a machine of bits if it has as many registers of the same side, and its registers
    and variables show the slots and names. -/
structure Shows {side count : Nat} (s : State) (m : BitMachine side count) : Prop where
  side_eq : s.side = side
  size_eq : s.registers.size = count
  register : ∀ slot : Fin count, ∃ content, s.registers[slot.val]? = some content ∧
    Option.Rel (fun matrix bits => ShowsBits side side bits.val matrix) content (m.slots slot)
  binding : ∀ name, Option.Rel (fun value bits => ShowsRow value bits.val)
    (s.environment.get? name) (m.names name)

/-- Empty registers show empty slots. -/
theorem shows_fresh (side count : Nat) : Shows (.fresh side count) (.empty side count) where
  side_eq := rfl
  size_eq := Array.size_replicate
  register slot := ⟨none, by simp [State.fresh], .none⟩
  binding _ := .none

/-! ### Bits become cells -/

/-- Cells that are enough for a shape make a matrix of it. -/
theorem showsBits_ofFlat {rows cols : Nat} (bits : List Bool) (rows_pos : 0 < rows)
    (cols_pos : 0 < cols) (fits : bits.length = rows * cols) :
    ∃ matrix, DenseMatrix.ofFlat rows cols (bits.map bitCell).toArray = .ok matrix ∧
      ShowsBits rows cols bits matrix := by
  have shape : 0 < rows ∧ 0 < cols ∧ (bits.map bitCell).toArray.size = rows * cols :=
    ⟨rows_pos, cols_pos, by simpa using fits⟩
  exact ⟨⟨rows, cols, (bits.map bitCell).toArray, shape.1, shape.2.1, shape.2.2⟩,
    dif_pos shape, rfl, rfl, rfl⟩

theorem cellOfBit?_eq (c : Char) :
    cellOfBit? c = if isBit c then some (bitCell (c == '1')) else none := by
  by_cases zero : c = '0'
  · subst zero
    rfl
  · by_cases one : c = '1'
    · subst one
      rfl
    · simp [cellOfBit?, isBit, zero, one]

/-- The digits of a text are read as cells up to the first that is no bit. -/
theorem cellsOfBits_eq (digits : String) (cs : List Char) :
    cellsOfBits digits cs =
      match cs.find? fun c => !isBit c with
      | some c => .error (.notABit digits c)
      | none => .ok ((cs.map (· == '1')).map bitCell) := by
  induction cs with
  | nil => rfl
  | cons c rest ih =>
      rw [cellsOfBits, cellOfBit?_eq, List.find?_cons]
      cases bit : isBit c with
      | false => rfl
      | true =>
          simp only [if_true, Bool.not_true, ih]
          cases rest.find? fun c => !isBit c with
          | none => rfl
          | some d => rfl

/-- There is no fault exactly in a text that fills a register. -/
theorem textFault?_eq_none_iff {side : Nat} {digits : String} :
    textFault? side digits = none ↔ FillsRegister side digits := by
  unfold textFault? FillsRegister
  by_cases length : digits.length = side * side
  · simp only [length, if_true, true_and, Option.map_eq_none_iff, List.find?_eq_none]
    simp [isBit, Decidable.or_iff_not_imp_left]
  · simp [length]

/-- A text that fills a register makes a matrix that shows its bits. -/
theorem registerOfBits_of_fills {side : Nat} {digits : String} (positive : 0 < side)
    (countable : side * side < cellBound) (fills : FillsRegister side digits) :
    ∃ matrix, registerOfBits digits side = .ok matrix ∧
      ShowsBits side side (bitsOf digits) matrix := by
  have allBits : digits.toList.find? (fun c => !isBit c) = none := by
    have faultless := textFault?_eq_none_iff.mpr fills
    simpa [textFault?, fills.1] using faultless
  obtain ⟨matrix, built, shown⟩ := showsBits_ofFlat _ positive positive (length_bitsOf fills)
  refine ⟨matrix, ?_, shown⟩
  have cells : cellsOfBits digits digits.toList = .ok ((bitsOf digits).map bitCell) := by
    rw [cellsOfBits_eq, allBits]
    rfl
  have counted := Shape.cellCount_of_lt (s := ⟨side, side⟩) countable
  simp [registerOfBits, counted, fills.1, cells, built, bind, Except.bind, liftAlgebra,
    Except.mapError]

/-- A text that does not is refused for its fault. -/
theorem registerOfBits_of_textFault {side : Nat} {digits : String} {failure : MachineFailure}
    (countable : side * side < cellBound) (fault : textFault? side digits = some failure) :
    registerOfBits digits side = .error failure := by
  have counted := Shape.cellCount_of_lt (s := ⟨side, side⟩) countable
  unfold textFault? at fault
  split at fault
  · rename_i length
    obtain ⟨c, found, rfl⟩ := Option.map_eq_some_iff.mp fault
    have cells : cellsOfBits digits digits.toList = .error (.notABit digits c) := by
      rw [cellsOfBits_eq, found]
    simp [registerOfBits, counted, length, cells, bind, Except.bind]
  · rename_i length
    cases fault
    simp [registerOfBits, counted, length]

/-- The matrix of zeros shows cleared bits. -/
theorem zeros_showsBits {side : Nat} (positive : 0 < side) :
    ∃ matrix, Handler.loadedMatrix side none = .ok matrix ∧
      ShowsBits side side (List.replicate (side * side) false) matrix := by
  obtain ⟨matrix, built, shown⟩ :=
    showsBits_ofFlat (List.replicate (side * side) false) positive positive List.length_replicate
  refine ⟨matrix, ?_, shown⟩
  have zeros : DenseMatrix.zeros side side = .ok matrix := by
    rw [← built, DenseMatrix.zeros, List.map_replicate, List.toArray_replicate]
    rfl
  rw [Handler.loadedMatrix, zeros]
  rfl

/-! ### One instruction -/

variable {side count : Nat} {s : State} {m : BitMachine side count}

/-- Filling a register that exists shows the filled slot. -/
theorem Shows.load (shows : Shows s m) {register : Nat} (inside : register < count)
    (bits : { bits : List Bool // bits.length = side * side }) {matrix : FloatMatrix}
    (shown : ShowsBits side side bits.val matrix) :
    ∃ after, s.load register matrix = .ok after ∧
      Shows after (m.fill ⟨register, inside⟩ bits) := by
  have within : register < s.registers.size := shows.size_eq ▸ inside
  refine ⟨_, if_pos within, shows.side_eq, ?_, ?_, shows.binding⟩
  · rw [Array.size_setIfInBounds, shows.size_eq]
  · intro slot
    by_cases same : slot = ⟨register, inside⟩
    · subst same
      refine ⟨some matrix, by simp [within], ?_⟩
      simpa [BitMachine.fill] using Option.Rel.some shown
    · obtain ⟨content, found, related⟩ := shows.register slot
      have apart : register ≠ slot.val := fun equal => same (Fin.ext equal.symm)
      refine ⟨content, by simpa [Array.getElem?_setIfInBounds_ne apart] using found, ?_⟩
      simpa [BitMachine.fill, same] using related

/-- A register that does not exist is not filled. -/
theorem Shows.load_outside (shows : Shows s m) {register : Nat} (outside : ¬ register < count)
    (matrix : FloatMatrix) : s.load register matrix = .error (.noSuchRegister register count) := by
  have beyond : ¬ register < s.registers.size := shows.size_eq ▸ outside
  rw [State.load, if_neg beyond, shows.size_eq]

/-- Setting a variable to one row of cells shows the name that is assigned. -/
theorem Shows.setVariable (shows : Shows s m) (target : String)
    (bits : { bits : List Bool // bits ≠ [] }) {value : Value} (shown : ShowsRow value bits.val) :
    Shows (s.setVariable target value) (m.assign target bits) where
  side_eq := shows.side_eq
  size_eq := shows.size_eq
  register := shows.register
  binding name := by
    rw [State.setVariable, Variables.get?_set]
    by_cases same : name = target
    · simpa [BitMachine.assign, same] using Option.Rel.some shown
    · simpa [BitMachine.assign, same] using shows.binding name

/-- An attempt agrees with a machine if it succeeds exactly when the instruction is accepted, and
    then shows its effect, and otherwise fails for the machine's cause. -/
def Agrees (trace : Bool) (m : BitMachine side count) (i : Instruction)
    (attempt : Except MachineFailure State) : Prop :=
  (∃ accepted : m.Accepts trace i, ∃ after, attempt = .ok after ∧
    Shows after (m.effect trace i accepted)) ∨
  (¬ m.Accepts trace i ∧ attempt = .error (BitMachine.fault side count i))

theorem Shows.agrees_load (shows : Shows s m) (positive : 0 < side)
    (countable : side * side < cellBound) (trace : Bool) (register : Nat) (bits : Option String) :
    Agrees trace m (.load register bits) (s.carryOut trace (.load register bits)) := by
  cases bits with
  | none =>
      obtain ⟨matrix, made, shown⟩ := zeros_showsBits positive
      rw [State.carryOut_load none (shows.side_eq ▸ made)]
      by_cases inside : register < count
      · obtain ⟨after, loaded, shownAfter⟩ := shows.load inside ⟨_, List.length_replicate⟩ shown
        exact .inl ⟨inside, after, loaded, shownAfter⟩
      · exact .inr ⟨inside, shows.load_outside inside matrix⟩
  | some digits =>
      by_cases fills : FillsRegister side digits
      · obtain ⟨matrix, made, shown⟩ := registerOfBits_of_fills positive countable fills
        rw [State.carryOut_load (some digits) (shows.side_eq ▸ made)]
        by_cases inside : register < count
        · obtain ⟨after, loaded, shownAfter⟩ := shows.load inside ⟨_, length_bitsOf fills⟩ shown
          exact .inl ⟨⟨fills, inside⟩, after, loaded, shownAfter⟩
        · refine .inr ⟨fun accepted => inside accepted.2, ?_⟩
          rw [shows.load_outside inside, BitMachine.fault, textFault?_eq_none_iff.mpr fills]
          rfl
      · refine .inr ⟨fun accepted => fills accepted.1, ?_⟩
        cases fault : textFault? side digits with
        | none => exact absurd (textFault?_eq_none_iff.mp fault) fills
        | some failure =>
            have refused := registerOfBits_of_textFault countable fault
            rw [State.carryOut_load_of_error (some digits) (shows.side_eq ▸ refused),
              BitMachine.fault, fault]
            rfl

/-- The cells of a selection inside a shown register are a row that shows the selected bits. -/
theorem ShowsBits.row {bits : List Bool} {matrix : FloatMatrix} {offset number : Nat}
    (shown : ShowsBits side side bits matrix) (fits : bits.length = side * side)
    (nonempty : 1 ≤ number) (inside : offset + number ≤ side * side) :
    ∃ row, DenseMatrix.row (matrix.cells.extract offset (offset + number)) = .ok row ∧
      ShowsRow (.matrix row) ((bits.drop offset).take number) := by
  have selected : ((bits.drop offset).take number).length = number := by
    rw [List.length_take, List.length_drop]
    omega
  have cells : matrix.cells.extract offset (offset + number) =
      (((bits.drop offset).take number).map bitCell).toArray := by
    apply Array.toList_inj.mp
    simp [shown.cells_eq, List.map_take, List.map_drop]
  have size : (((bits.drop offset).take number).map bitCell).toArray.size = number := by
    simpa using selected
  obtain ⟨row, built, shownRow⟩ :=
    showsBits_ofFlat ((bits.drop offset).take number) Nat.one_pos nonempty
      (by rw [selected, Nat.one_mul])
  refine ⟨row, ?_, row, rfl, ?_⟩
  · rw [DenseMatrix.row, cells, size, built]
  · rw [selected]
    exact shownRow

theorem Shows.agrees_select (shows : Shows s m) (countable : side * side < cellBound)
    (trace : Bool) (target : String) (register offset number : Nat) :
    Agrees trace m (.select target register offset number)
      (s.carryOut trace (.select target register offset number)) := by
  have size : s.registerSize = side * side := by
    rw [State.registerSize, shows.side_eq, Shape.cellCount_of_lt countable]
  by_cases exist : register < count
  · obtain ⟨content, found, related⟩ := shows.register ⟨register, exist⟩
    have held : s.register register = .ok content := by
      rw [State.register, found]
    by_cases inside : 1 ≤ number ∧ offset + number ≤ side * side
    · have within : 0 < number ∧ offset + number ≤ s.registerSize := size ▸ inside
      have slot : m.slot? register = m.slots ⟨register, exist⟩ := dif_pos exist
      cases filled : m.slots ⟨register, exist⟩ with
      | none =>
          rw [filled] at related
          cases related
          refine .inr ⟨fun accepted => ?_, ?_⟩
          · have some := accepted.2.2.2
            rw [slot, filled] at some
            cases some
          · rw [State.carryOut_select_of_empty held within]
            simp [BitMachine.fault, exist, inside]
      | some bits =>
          rw [filled] at related
          cases related with
          | @some matrix _ shown =>
              obtain ⟨row, made, shownRow⟩ := shown.row bits.property inside.1 inside.2
              have enough : offset + number ≤ matrix.cells.size := by
                rw [matrix.size_cells, shown.rows_eq, shown.cols_eq]
                exact inside.2
              have accepted : m.Accepts trace (.select target register offset number) :=
                ⟨exist, inside.1, inside.2, by rw [slot, filled]; rfl⟩
              refine .inl ⟨accepted, _,
                State.carryOut_select_of_row held within enough made trace target, ?_⟩
              obtain ⟨nonempty, effect⟩ := BitMachine.effect_select (slot.trans filled) accepted
              rw [effect]
              exact shows.setVariable target ⟨_, nonempty⟩ shownRow
    · refine .inr ⟨fun accepted => inside ⟨accepted.2.1, accepted.2.2.1⟩, ?_⟩
      rw [State.carryOut_select_of_outside held (size ▸ inside), size]
      simp [BitMachine.fault, exist, inside]
  · refine .inr ⟨fun accepted => exist accepted.1, ?_⟩
    have missing : s.registers.size ≤ register := shows.size_eq ▸ Nat.le_of_not_lt exist
    rw [State.carryOut_select_of_missing missing, shows.size_eq]
    simp [BitMachine.fault, exist]

/-- Every instruction is carried out as the machine of bits carries it out, if the cells of a
    register can be counted. -/
theorem Shows.agrees (shows : Shows s m) (positive : 0 < side)
    (countable : side * side < cellBound) (trace : Bool) (i : Instruction) :
    Agrees trace m i (s.carryOut trace i) := by
  cases i with
  | load register bits => exact shows.agrees_load positive countable trace register bits
  | select target register offset number =>
      exact shows.agrees_select countable trace target register offset number
  | apply | concat | tensor | measure | inverse =>
      cases trace with
      | false => exact .inr ⟨Bool.false_ne_true, rfl⟩
      | true => exact .inl ⟨rfl, s, rfl, shows⟩

/-! ### Whole runs -/

/-- An execution shows one step of a machine of bits. -/
structure ShowsStep (e : Execution) (r : BitMachine side count × Except MachineFailure Unit) :
    Prop where
  shows : Shows e.computer.state r.1
  outcome_eq : e.outcome = r.2

/-- Executing an instruction shows a step. -/
theorem Shows.execute {trace : Bool} {c : Computer} (standard : c.IsStandard trace)
    (positive : 0 < side) (countable : side * side < cellBound) (shows : Shows c.state m)
    (i : Instruction) :
    ShowsStep (c.execute i) (m.step trace i) := by
  rcases shows.agrees positive countable trace i with
    ⟨accepted, after, succeeded, shownAfter⟩ | ⟨refused, failed⟩
  · rw [BitMachine.step, dif_pos accepted]
    constructor
    · rw [standard.execute_computer, succeeded]
      exact shownAfter
    · rw [standard.execute_outcome, succeeded]
      rfl
  · rw [BitMachine.step, dif_neg refused]
    constructor
    · rw [standard.execute_computer, failed]
      exact shows
    · rw [standard.execute_outcome, failed]
      rfl

/-- Executing a row of instructions shows a run. -/
theorem Shows.executions {trace : Bool} {c : Computer} (standard : c.IsStandard trace)
    (positive : 0 < side) (countable : side * side < cellBound) (shows : Shows c.state m)
    (program : List Instruction) :
    List.Forall₂ ShowsStep (c.executions program) (m.run trace program) := by
  induction program generalizing c m with
  | nil => exact .nil
  | cons i rest ih =>
      have step := shows.execute standard positive countable i
      exact .cons step (ih (standard.execute i) step.shows)

/-- Every reachable computer shows a machine of bits. -/
theorem Computer.Reachable.exists_shows {trace : Bool} {c : Computer}
    (reached : Reachable side count trace c) (countable : side * side < cellBound) :
    0 < side ∧ ∃ m : BitMachine side count, Shows c.state m := by
  induction reached with
  | start built =>
      cases side with
      | zero => simp [standard, build] at built
      | succ rows =>
          rw [standard_eq_ok (Nat.succ_pos rows)] at built
          cases built
          exact ⟨Nat.succ_pos rows, _, shows_fresh (rows + 1) count⟩
  | execute before i ih =>
      obtain ⟨positive, m, shows⟩ := ih
      exact ⟨positive, _, (shows.execute before.isStandard positive countable i).shows⟩

/-- A standard computer whose registers have cells that can be counted is simulated, instruction by
    instruction, by the machine of bits that starts from empty slots: after each instruction the
    computer shows the machine, and the instruction succeeds, or fails for the same cause, as it
    does on the machine. -/
theorem standard_executions_simulate_bits {side : Nat} (positive : 0 < side)
    (countable : side * side < cellBound) (count : Nat) (trace : Bool)
    (program : List Instruction) :
    ∃ c, Computer.standard side count trace = .ok c ∧
      Shows c.state (BitMachine.empty side count) ∧
      List.Forall₂ ShowsStep (c.executions program)
        ((BitMachine.empty side count).run trace program) := by
  have standard : Computer.IsStandard trace ⟨.fresh side count, .standard trace⟩ := rfl
  have shows := shows_fresh side count
  exact ⟨_, Computer.standard_eq_ok positive count trace, shows,
    shows.executions standard positive countable program⟩

/-- A register of two rows is filled, read inside and read beyond its end. -/
theorem standard_executions_simulate_bits_two_rows :
    0 < 2 ∧ 2 * 2 < cellBound ∧
      ((BitMachine.empty 2 1).run false
        [.load 0 (some "0110"), .select "v" 0 1 2, .select "w" 0 3 2]).map (·.2) =
          [.ok (), .ok (), .error (.selectionOutside 0 3 2 4)] ∧
      ∃ c, Computer.standard 2 1 false = .ok c ∧
        Shows c.state (BitMachine.empty 2 1) ∧
        List.Forall₂ ShowsStep
          (c.executions [.load 0 (some "0110"), .select "v" 0 1 2, .select "w" 0 3 2])
          ((BitMachine.empty 2 1).run false
            [.load 0 (some "0110"), .select "v" 0 1 2, .select "w" 0 3 2]) :=
  ⟨by decide, by decide, by decide,
    standard_executions_simulate_bits (by decide) (by decide) 1 false _⟩

end QuantumAssembler
