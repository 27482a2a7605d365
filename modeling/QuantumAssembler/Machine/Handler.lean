import QuantumAssembler.GateMatrix
import QuantumAssembler.Log.Event
import QuantumAssembler.Machine.State

/-!
Module: QuantumAssembler.Machine.Handler
Purpose: Handlers carry out instructions. A handler has an identity, declares the kinds of
  instruction that it wants to see, and reacts to an instruction by changing the state, by events,
  and by success or failure. There are three standard handlers: one fills registers, one copies
  cells of a register into a variable, and one only reports what it sees.
Main exports: Reaction, Handler, Handler.loading, Handler.selecting, Handler.tracing
-/

namespace QuantumAssembler

/-- What comes of an instruction: the state afterwards, the events in order, and success or
    failure. A failure may come after the state was changed. -/
structure Reaction where
  state : State
  events : List Event
  outcome : Except MachineFailure Unit

/-- A handler of instructions. Two handlers are the same only if their identities are. -/
structure Handler where
  identity : Nat
  name : String
  kinds : List InstructionKind
  react : Instruction → State → Reaction

namespace Reaction

/-- Nothing but success or failure. -/
def ofOutcome (s : State) (outcome : Except MachineFailure Unit) : Reaction :=
  ⟨s, [], outcome⟩

/-- A failure that leaves the state alone. -/
def failed (s : State) (failure : MachineFailure) : Reaction :=
  ofOutcome s (.error failure)

/-- Succeeds with one event if the new state could be made. -/
def ofAttempt (s : State) (attempt : Except MachineFailure (State × Event)) : Reaction :=
  match attempt with
  | .ok (after, event) => ⟨after, [event], .ok ()⟩
  | .error failure => failed s failure

end Reaction

namespace Handler

/-- What loading puts into a register: the given bits, or zeros. -/
def loadedMatrix (side : Nat) : Option String → Except MachineFailure FloatMatrix
  | none => liftAlgebra (DenseMatrix.zeros side side)
  | some bits => registerOfBits bits side

/-- Fills a register; the content is made before the register is looked up. -/
def loadRegister (register : Nat) (bits : Option String) (s : State) :
    Except MachineFailure (State × Event) := do
  let m ← loadedMatrix s.side bits
  return (← s.load register m, .registerLoaded register)

/-- Copies cells `start` to `start + count` of a register, which are counted row by row, into a
    variable of one row. The range is judged before the register's content. -/
def selectCells (target : String) (register start count : Nat) (s : State) :
    Except MachineFailure (State × Event) := do
  let _ ← s.register register
  let stop := start + count
  if ¬(0 < count ∧ stop ≤ s.registerSize) then
    .error (.selectionOutside register start count s.registerSize)
  else
    let content ← s.value register
    if content.cells.size < stop then
      .error (.cellsMissing register stop content.cells.size)
    else
      let row ← liftAlgebra (DenseMatrix.row (content.cells.extract start stop))
      return (s.setVariable target (.matrix row), .cellsSelected register start stop target)

/-- The name of the handler that fills registers. -/
def loadingName : String := "InitializeHandler"

/-- The handler that fills registers. -/
def loading (identity : Nat) : Handler where
  identity := identity
  name := loadingName
  kinds := [.load]
  react
    | .load register bits, s => .ofAttempt s (loadRegister register bits s)
    | other, s => .failed s (.wrongKind loadingName other.kind)

/-- The name of the handler that copies cells into variables. -/
def selectingName : String := "SelectHandler"

/-- The handler that copies cells of registers into variables. -/
def selecting (identity : Nat) : Handler where
  identity := identity
  name := selectingName
  kinds := [.select]
  react
    | .select target register start count, s =>
      .ofAttempt s (selectCells target register start count s)
    | other, s => .failed s (.wrongKind selectingName other.kind)

/-- The handler that reports every instruction and changes nothing. -/
def tracing (identity : Nat) : Handler where
  identity := identity
  name := "TraceHandler"
  kinds := InstructionKind.all
  react instruction s := ⟨s, [.instructionTraced instruction], .ok ()⟩

end Handler

end QuantumAssembler
