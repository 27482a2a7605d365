import QuantumAssembler.Proofs.Machine.Standard

/-!
Module: QuantumAssembler.Proofs.Machine.RegisterShape
Purpose: The shape of what registers hold, whatever is done to a state. Storing and the standard
  handlers put only square matrices of the register's side into registers, but loading takes a matrix
  of any shape. So the registers keep their shape exactly as long as nothing else is loaded, and then
  a selection never asks for cells that the register does not hold.
Main exports: State.Operation, State.perform, State.perform_cases, State.performAll, State.IsShaped,
  State.IsShaped.performAll, State.carryOut_select_cases, State.registers_keep_shape_iff
-/

namespace QuantumAssembler

/-- The handlers that come with every computer. -/
inductive BuiltIn where
  | loading
  | selecting
  | tracing
deriving DecidableEq, Repr

/-- The handler itself. -/
def BuiltIn.handler : BuiltIn → Handler
  | .loading => .loading 1
  | .selecting => .selecting 2
  | .tracing => .tracing 0

/-- The cells that were asked for lie inside the register, but not inside the matrix that it holds.
    -/
def MachineFailure.IsOverrun : MachineFailure → Prop
  | .cellsMissing .. => True
  | _ => False

namespace State

/-! ### Operations -/

/-- What can be done to a state. -/
inductive Operation where
  /-- Fill a register with a matrix of any shape. -/
  | load (register : Nat) (m : FloatMatrix)
  /-- Fill a register with a matrix of its shape. -/
  | store (register : Nat) (m : FloatMatrix)
  | setVariable (name : String) (value : Value)
  /-- Let a handler react to an instruction, be it one that it knows or not. -/
  | handle (handler : BuiltIn) (i : Instruction)

/-- The state after an operation; one that fails leaves what it had done by then. -/
def perform (s : State) : Operation → State
  | .load register m => s.afterAttempt (s.load register m)
  | .store register m => s.afterAttempt (s.store register m)
  | .setVariable name value => s.setVariable name value
  | .handle h i => (h.handler.react i s).state

/-- The state after operations in order. -/
def performAll (s : State) (operations : List Operation) : State :=
  operations.foldl perform s

/-- The state with a register filled. -/
def filled (s : State) (register : Nat) (m : FloatMatrix) : State :=
  { s with registers := s.registers.setIfInBounds register (some m) }

/-- The register is filled. -/
def IsFilled (s : State) (register : Nat) : Prop :=
  ∃ m, s.registers[register]? = some (some m)

/-- Every register that is filled holds a square matrix of the side of the registers. -/
def IsShaped (s : State) : Prop :=
  ∀ (register : Nat) (m : FloatMatrix), s.registers[register]? = some (some m) →
    m.shape = ⟨s.side, s.side⟩

/-- A filled register holds what it was filled with, and the others are not touched. -/
theorem getElem?_filled {s : State} {register : Nat} (inside : register < s.registers.size)
    (m : FloatMatrix) (other : Nat) :
    (s.filled register m).registers[other]? =
      if other = register then some (some m) else s.registers[other]? := by
  by_cases same : other = register
  · rw [if_pos same, same]
    exact Array.getElem?_setIfInBounds_self_of_lt inside
  · rw [if_neg same]
    exact Array.getElem?_setIfInBounds_ne (Ne.symm same)

theorem size_fresh (side count : Nat) : (fresh side count).registers.size = count :=
  Array.size_replicate

theorem isShaped_fresh (side count : Nat) : (fresh side count).IsShaped := by
  intro register m held
  simp [fresh, Array.getElem?_replicate] at held

/-- Loading fills a register that exists, and does nothing otherwise. -/
theorem afterAttempt_load (s : State) (register : Nat) (m : FloatMatrix) :
    s.afterAttempt (s.load register m) =
      if register < s.registers.size then s.filled register m else s := by
  by_cases inside : register < s.registers.size
  · rw [load, if_pos inside, if_pos inside]
    rfl
  · rw [load, if_neg inside, if_neg inside]
    rfl

/-! ### Standard handlers -/

theorem shape_of_ofFlat {rows cols : Nat} {cells : Array (Scalar Float)} {m : FloatMatrix}
    (made : DenseMatrix.ofFlat rows cols cells = .ok m) : m.shape = ⟨rows, cols⟩ := by
  unfold DenseMatrix.ofFlat at made
  split at made
  · cases made
    rfl
  · cases made

/-- What an instruction loads has the shape of a register. -/
theorem shape_of_loadedMatrix {side : Nat} {bits : Option String} {m : FloatMatrix}
    (made : Handler.loadedMatrix side bits = .ok m) : m.shape = ⟨side, side⟩ := by
  have lifted : ∀ {cells : Array (Scalar Float)},
      liftAlgebra (DenseMatrix.ofFlat side side cells) = .ok m → m.shape = ⟨side, side⟩ := by
    intro cells made
    cases flat : DenseMatrix.ofFlat side side cells with
    | error failure =>
        rw [flat] at made
        cases made
    | ok other =>
        rw [flat] at made
        cases made
        exact shape_of_ofFlat flat
  cases bits with
  | none => exact lifted made
  | some digits =>
      rw [Handler.loadedMatrix, registerOfBits] at made
      split at made
      · cases made
      · cases read : cellsOfBits digits digits.toList with
        | error failure =>
            rw [read] at made
            cases made
        | ok cells =>
            rw [read] at made
            exact lifted made

section Selecting

variable {s : State} {register start count : Nat}

/-- A selection beyond what the register holds is an overrun. -/
theorem carryOut_select_of_overrun {m : FloatMatrix} (held : s.register register = .ok (some m))
    (inside : 0 < count ∧ start + count ≤ s.registerSize) (few : m.cells.size < start + count)
    (trace : Bool) (target : String) :
    s.carryOut trace (.select target register start count) =
      .error (.cellsMissing register (start + count) m.cells.size) := by
  simp only [carryOut, Handler.selectCells, State.value, held, bind, Except.bind]
  rw [if_neg (not_not_intro inside)]
  simp only [pure, Except.pure]
  rw [if_pos few]
  rfl

theorem exists_row (cells : Array (Scalar Float)) (some : 0 < count)
    (enough : start + count ≤ cells.size) :
    ∃ row, DenseMatrix.row (cells.extract start (start + count)) = .ok row ∧
      row.shape = ⟨1, count⟩ ∧ row.cells = cells.extract start (start + count) := by
  have size : (cells.extract start (start + count)).size = count := by
    rw [Array.size_extract]
    omega
  generalize cells.extract start (start + count) = part at size
  subst size
  have fits : 0 < 1 ∧ 0 < part.size ∧ part.size = 1 * part.size := by omega
  exact ⟨_, dif_pos fits, rfl, rfl⟩

/-- A selection sets its variable to a row of cells of the register, or it fails. An overrun needs a
    matrix that has fewer cells than the register. -/
theorem carryOut_select_cases (s : State) (target : String) (register start count : Nat) :
    (∃ m row, s.registers[register]? = some (some m) ∧ start + count ≤ m.cells.size ∧
      row.shape = ⟨1, count⟩ ∧ row.cells = m.cells.extract start (start + count) ∧
      s.carryOut false (.select target register start count) =
        .ok (s.setVariable target (.matrix row))) ∨
    ∃ failure, s.carryOut false (.select target register start count) = .error failure ∧
      (failure.IsOverrun →
        ∃ m, s.registers[register]? = some (some m) ∧ m.cells.size < s.registerSize) := by
  cases held : s.registers[register]? with
  | none =>
      have missing : s.registers.size ≤ register := Array.getElem?_eq_none_iff.mp held
      exact .inr ⟨_, carryOut_select_of_missing missing false target, False.elim⟩
  | some content =>
      have found : s.register register = .ok content := by rw [State.register, held]
      by_cases inside : 0 < count ∧ start + count ≤ s.registerSize
      · cases content with
        | none => exact .inr ⟨_, carryOut_select_of_empty found inside false target, False.elim⟩
        | some m =>
            by_cases enough : start + count ≤ m.cells.size
            · obtain ⟨row, made, shape, cells⟩ := exists_row m.cells inside.1 enough
              exact .inl ⟨m, row, rfl, enough, shape, cells,
                carryOut_select_of_row found inside enough made false target⟩
            · have few : m.cells.size < start + count := by omega
              exact .inr ⟨_, carryOut_select_of_overrun found inside few false target,
                fun _ => ⟨m, rfl, by omega⟩⟩
      · exact .inr ⟨_, carryOut_select_of_outside found inside false target, False.elim⟩

end Selecting

/-! ### One operation -/

theorem perform_handle_load (s : State) (register : Nat) (bits : Option String) :
    s.perform (.handle .loading (.load register bits)) =
      s.afterAttempt (s.carryOut false (.load register bits)) :=
  (Reaction.hasEffect_ofAttempt s (Handler.loadRegister register bits s)).1

theorem perform_handle_select (s : State) (target : String) (register start count : Nat) :
    s.perform (.handle .selecting (.select target register start count)) =
      s.afterAttempt (s.carryOut false (.select target register start count)) :=
  (Reaction.hasEffect_ofAttempt s (Handler.selectCells target register start count s)).1

/-- All that an operation can do: nothing, setting a variable, or filling a register. Only loading
    fills a register with a matrix of another shape. -/
theorem perform_cases (s : State) (o : Operation) :
    s.perform o = s ∨ (∃ name value, s.perform o = s.setVariable name value) ∨
      ∃ register m, register < s.registers.size ∧ s.perform o = s.filled register m ∧
        (o = .load register m ∨ m.shape = ⟨s.side, s.side⟩) := by
  cases o with
  | load register m =>
      rw [perform, afterAttempt_load]
      split
      · rename_i inside
        exact .inr (.inr ⟨register, m, inside, rfl, .inl rfl⟩)
      · exact .inl rfl
  | store register m =>
      rw [perform, store]
      split
      · rename_i inside
        split
        · rename_i square
          rw [afterAttempt_load, if_pos inside]
          exact .inr (.inr ⟨register, m, inside, rfl, .inr square⟩)
        · exact .inl rfl
      · exact .inl rfl
  | setVariable name value => exact .inr (.inl ⟨name, value, rfl⟩)
  | handle h i =>
      cases h with
      | loading =>
          cases i with
          | load register bits =>
              rw [perform_handle_load]
              cases made : Handler.loadedMatrix s.side bits with
              | error failure =>
                  rw [carryOut_load_of_error bits made]
                  exact .inl rfl
              | ok m =>
                  rw [carryOut_load bits made, afterAttempt_load]
                  split
                  · rename_i inside
                    exact .inr (.inr ⟨register, m, inside, rfl, .inr (shape_of_loadedMatrix made)⟩)
                  · exact .inl rfl
          | select | apply | concat | tensor | measure | inverse => exact .inl rfl
      | selecting =>
          cases i with
          | select target register start count =>
              rw [perform_handle_select]
              rcases carryOut_select_cases s target register start count with
                ⟨m, row, -, -, -, -, copied⟩ | ⟨failure, refused, -⟩
              · rw [copied]
                exact .inr (.inl ⟨target, _, rfl⟩)
              · rw [refused]
                exact .inl rfl
          | load | apply | concat | tensor | measure | inverse => exact .inl rfl
      | tracing => exact .inl rfl

theorem size_perform (s : State) (o : Operation) :
    (s.perform o).registers.size = s.registers.size := by
  rcases s.perform_cases o with same | ⟨name, value, set⟩ | ⟨register, m, -, fills, -⟩
  · rw [same]
  · rw [set]
    rfl
  · rw [fills]
    exact Array.size_setIfInBounds

theorem side_perform (s : State) (o : Operation) : (s.perform o).side = s.side := by
  rcases s.perform_cases o with same | ⟨name, value, set⟩ | ⟨register, m, -, fills, -⟩
  · rw [same]
  · rw [set]
    rfl
  · rw [fills]
    rfl

theorem IsFilled.perform {s : State} {register : Nat} (filled : s.IsFilled register)
    (o : Operation) : (s.perform o).IsFilled register := by
  rcases s.perform_cases o with same | ⟨name, value, set⟩ | ⟨other, m, inside, fills, -⟩
  · rwa [same]
  · rw [set]
    exact filled
  · rw [fills, IsFilled]
    simp only [getElem?_filled inside]
    split
    · exact ⟨m, rfl⟩
    · exact filled

/-- An operation keeps the shape of the registers if it does not load something else. -/
theorem IsShaped.perform {s : State} (shaped : s.IsShaped) {o : Operation}
    (square : ∀ register m, o = .load register m → register < s.registers.size →
      m.shape = ⟨s.side, s.side⟩) : (s.perform o).IsShaped := by
  rcases s.perform_cases o with same | ⟨name, value, set⟩ | ⟨register, m, inside, fills, why⟩
  · rwa [same]
  · rw [set]
    exact shaped
  · rw [fills]
    intro other held
    rw [getElem?_filled inside]
    split
    · intro found
      cases found
      rcases why with loads | fits
      · exact square register m loads inside
      · exact fits
    · exact shaped other held

/-- If the registers keep their shape when a matrix is loaded, it has this shape. -/
theorem shape_of_isShaped_load {s : State} {register : Nat} {m : FloatMatrix}
    (inside : register < s.registers.size) (shaped : (s.perform (.load register m)).IsShaped) :
    m.shape = ⟨s.side, s.side⟩ := by
  rw [State.perform, afterAttempt_load, if_pos inside] at shaped
  apply shaped register m
  rw [getElem?_filled inside, if_pos rfl]

/-! ### Operations in order -/

theorem performAll_append (s : State) (first second : List Operation) :
    s.performAll (first ++ second) = (s.performAll first).performAll second :=
  List.foldl_append

/-- Sides and numbers of registers do not change. -/
theorem performAll_frame (s : State) (operations : List Operation) :
    (s.performAll operations).side = s.side ∧
      (s.performAll operations).registers.size = s.registers.size := by
  induction operations generalizing s with
  | nil => exact ⟨rfl, rfl⟩
  | cons o rest ih =>
      obtain ⟨side, size⟩ := ih (s.perform o)
      exact ⟨side.trans (s.side_perform o), size.trans (s.size_perform o)⟩

theorem IsFilled.performAll {s : State} {register : Nat} (filled : s.IsFilled register)
    (operations : List Operation) : (s.performAll operations).IsFilled register := by
  induction operations generalizing s with
  | nil => exact filled
  | cons o rest ih => exact ih (filled.perform o)

/-- Operations keep the shape of the registers if all that they load has it. -/
theorem IsShaped.performAll {s : State} (shaped : s.IsShaped) {operations : List Operation}
    (square : ∀ register m, Operation.load register m ∈ operations →
      register < s.registers.size → m.shape = ⟨s.side, s.side⟩) :
    (s.performAll operations).IsShaped := by
  induction operations generalizing s with
  | nil => exact shaped
  | cons o rest ih =>
      apply ih (shaped.perform ?_)
      · intro register m member inside
        rw [s.size_perform] at inside
        rw [s.side_perform]
        exact square register m (List.mem_cons_of_mem o member) inside
      · intro register m loads inside
        exact square register m (loads ▸ List.mem_cons_self) inside

/-- In a state of the right shape no selection is an overrun. -/
theorem IsShaped.not_isOverrun {s : State} (shaped : s.IsShaped) {target : String}
    {register start count : Nat} {failure : MachineFailure}
    (refused : s.carryOut false (.select target register start count) = .error failure) :
    ¬ failure.IsOverrun := by
  intro overrun
  rcases s.carryOut_select_cases target register start count with
    ⟨m, row, -, -, -, -, copied⟩ | ⟨other, failed, why⟩
  · rw [copied] at refused
    cases refused
  · rw [failed] at refused
    cases refused
    obtain ⟨m, held, few⟩ := why overrun
    have shape := shaped register m held
    have size := m.size_cells
    simp only [DenseMatrix.shape, Shape.mk.injEq] at shape
    rw [shape.1, shape.2] at size
    have counted : s.registerSize ≤ s.side * s.side := Nat.mod_le _ _
    omega

/-- A selection copies cells of a register into a variable of one row, or it fails for a cause that
    is no overrun and leaves the state alone. -/
def Selects (s : State) (target : String) (register start count : Nat) : Prop :=
  let reaction := BuiltIn.selecting.handler.react (.select target register start count) s
  (∃ m row, s.registers[register]? = some (some m) ∧ start + count ≤ m.cells.size ∧
    row.shape = ⟨1, count⟩ ∧ row.cells = m.cells.extract start (start + count) ∧
    reaction.state = s.setVariable target (.matrix row) ∧ reaction.outcome = .ok ()) ∨
  ∃ failure, reaction.outcome = .error failure ∧ ¬ failure.IsOverrun ∧ reaction.state = s

theorem IsShaped.selects {s : State} (shaped : s.IsShaped) (target : String)
    (register start count : Nat) : s.Selects target register start count := by
  obtain ⟨state, outcome⟩ := Reaction.hasEffect_ofAttempt s
    (Handler.selectCells target register start count s)
  rcases s.carryOut_select_cases target register start count with
    ⟨m, row, held, enough, shape, cells, copied⟩ | ⟨failure, refused, -⟩
  · refine .inl ⟨m, row, held, enough, shape, cells, state.trans ?_, outcome.trans ?_⟩
    · exact congrArg s.afterAttempt copied
    · exact congrArg (Except.map fun _ => ()) copied
  · refine .inr ⟨failure, outcome.trans ?_, shaped.not_isOverrun refused, state.trans ?_⟩
    · exact congrArg (Except.map fun _ => ()) refused
    · exact congrArg s.afterAttempt refused

/-- From empty registers on, the registers keep their shape through all operations exactly if all
    matrices that are loaded into them have it, and then every selection on the way copies cells of
    its register or fails for a cause of its own. Whatever is loaded, the registers keep their number
    and side, and what is filled stays filled. -/
theorem registers_keep_shape_iff (side count : Nat) (operations : List Operation) :
    ((∀ front, front <+: operations → ((fresh side count).performAll front).IsShaped) ↔
      ∀ register m, Operation.load register m ∈ operations → register < count →
        m.shape = ⟨side, side⟩) ∧
    ((∀ register m, Operation.load register m ∈ operations → register < count →
        m.shape = ⟨side, side⟩) →
      ∀ front, front <+: operations → ∀ target register start number,
        ((fresh side count).performAll front).Selects target register start number) ∧
    ∀ front, front <+: operations →
      ((fresh side count).performAll front).side = side ∧
      ((fresh side count).performAll front).registers.size = count ∧
      ∀ register, ((fresh side count).performAll front).IsFilled register →
        ((fresh side count).performAll operations).IsFilled register := by
  have frame : ∀ front, ((fresh side count).performAll front).side = side ∧
      ((fresh side count).performAll front).registers.size = count := by
    intro front
    obtain ⟨sameSide, sameSize⟩ := (fresh side count).performAll_frame front
    exact ⟨sameSide, sameSize.trans (size_fresh side count)⟩
  have keeps : (∀ register m, Operation.load register m ∈ operations → register < count →
        m.shape = ⟨side, side⟩) →
      ∀ front, front <+: operations → ((fresh side count).performAll front).IsShaped := by
    intro square front begins
    apply (isShaped_fresh side count).performAll
    intro register m member inside
    exact square register m (begins.subset member) (size_fresh side count ▸ inside)
  refine ⟨⟨?_, keeps⟩, ?_, ?_⟩
  · intro shaped register m member inside
    obtain ⟨before, behind, rfl⟩ := List.append_of_mem member
    obtain ⟨sameSide, sameSize⟩ := frame before
    have loaded := shaped (before ++ [.load register m]) ⟨behind, by simp⟩
    rw [performAll_append] at loaded
    have shape := shape_of_isShaped_load (sameSize.symm ▸ inside) loaded
    rwa [sameSide] at shape
  · intro square front begins target register start number
    exact (keeps square front begins).selects target register start number
  · intro front begins
    refine ⟨(frame front).1, (frame front).2, fun register filled => ?_⟩
    obtain ⟨rest, rfl⟩ := begins
    rw [performAll_append]
    exact filled.performAll rest

/-- Registers of side 2 keep their shape when the identity of this size is loaded, a smaller one is
    refused, two cells are selected and zeros are loaded by an instruction. -/
theorem registers_keep_shape_iff_identity :
    let operations : List Operation :=
      [.load 0 (DenseMatrix.diagonal 2 (by decide)), .store 0 (DenseMatrix.diagonal 1 (by decide)),
        .handle .selecting (.select "v" 0 1 2), .handle .loading (.load 0 none)]
    ((fresh 2 1).performAll operations).IsShaped ∧
      ((fresh 2 1).performAll operations).Selects "w" 0 0 4 ∧
      ((fresh 2 1).performAll operations).IsFilled 0 := by
  intro operations
  obtain ⟨shape, selects, frame⟩ := registers_keep_shape_iff 2 1 operations
  have square : ∀ register m, Operation.load register m ∈ operations → register < 1 →
      m.shape = ⟨2, 2⟩ := by
    intro register m member _
    simp only [operations, List.mem_cons, reduceCtorEq, List.not_mem_nil, or_false,
      Operation.load.injEq] at member
    obtain ⟨-, rfl⟩ := member
    rfl
  have first : [.load 0 (DenseMatrix.diagonal 2 (by decide))] <+: operations := ⟨_, rfl⟩
  refine ⟨shape.mpr square _ List.prefix_rfl, selects square _ List.prefix_rfl "w" 0 0 4, ?_⟩
  exact (frame _ first).2.2 0 ⟨_, rfl⟩

/-- A matrix of one cell, loaded into a register of four, leaves a register that has lost its shape,
    and a selection of the four cells is an overrun. -/
theorem load_loses_shape :
    let loaded := (fresh 2 1).performAll [.load 0 (DenseMatrix.diagonal 1 (by decide))]
    ¬ loaded.IsShaped ∧
      (BuiltIn.selecting.handler.react (.select "v" 0 0 4) loaded).outcome =
        .error (.cellsMissing 0 4 1) := by
  intro loaded
  constructor
  · intro shaped
    have shape := shaped 0 (DenseMatrix.diagonal 1 (by decide)) rfl
    cases shape
  · rfl

end State

end QuantumAssembler
