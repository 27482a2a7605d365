import QuantumAssembler.Machine.Failure
import QuantumAssembler.Machine.Variables

/-!
Module: QuantumAssembler.Machine.State
Purpose: The registers and variables of a computer. Every register has the same side; it is empty
  until it is first filled and never becomes empty again. `load` fills a register as it is told,
  `store` insists on a square matrix of the register's side.
Main exports: State, State.fresh, State.register, State.value, State.load, State.store
-/

namespace QuantumAssembler

/-- The registers and variables of a computer. -/
structure State where
  /-- The number of rows, and of columns, of every register. -/
  side : Nat
  registers : Array (Option FloatMatrix)
  /-- The values of the variables by name. -/
  environment : Variables

namespace State

/-- A state of empty registers and no variables. -/
def fresh (side count : Nat) : State :=
  ⟨side, Array.replicate count none, .empty⟩

/-- The number of cells of a register, as it is counted. -/
def registerSize (s : State) : Nat :=
  Shape.cellCount ⟨s.side, s.side⟩

/-- A register of fewer cells than can be counted has as many as the square of its side. -/
theorem registerSize_eq {s : State} (countable : s.side * s.side < cellBound) :
    s.registerSize = s.side * s.side :=
  Shape.cellCount_of_lt countable

/-- The content of a register, if it has any. -/
def register (s : State) (index : Nat) : Except MachineFailure (Option FloatMatrix) :=
  match s.registers[index]? with
  | some content => .ok content
  | none => .error (.noSuchRegister index s.registers.size)

/-- The content of a register, which has to be filled. -/
def value (s : State) (index : Nat) : Except MachineFailure FloatMatrix := do
  match ← s.register index with
  | some m => return m
  | none => .error (.uninitialized index)

/-- Fills a register. -/
def load (s : State) (index : Nat) (m : FloatMatrix) : Except MachineFailure State :=
  if index < s.registers.size then
    .ok { s with registers := s.registers.setIfInBounds index (some m) }
  else .error (.noSuchRegister index s.registers.size)

/-- Fills a register with a matrix of its shape. -/
def store (s : State) (index : Nat) (m : FloatMatrix) : Except MachineFailure State :=
  if index < s.registers.size then
    if m.shape = ⟨s.side, s.side⟩ then s.load index m
    else .error (.algebra (.shapeMismatch .register ⟨s.side, s.side⟩ m.shape))
  else .error (.noSuchRegister index s.registers.size)

/-- Creates or overwrites a variable. -/
def setVariable (s : State) (name : String) (value : Value) : State :=
  { s with environment := s.environment.set name value }

end State

end QuantumAssembler
