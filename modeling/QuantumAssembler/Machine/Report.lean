import QuantumAssembler.Machine.Dispatch

/-!
Module: QuantumAssembler.Machine.Report
Purpose: What a computer shows of itself: a listing of its registers and variables for people, and a
  snapshot of all cells in written form.
Main exports: State.registerListing, State.variableListing, State.status, Snapshot, State.snapshot
-/

namespace QuantumAssembler

/-- The cells of all registers and variables in written form, row by row. -/
structure Snapshot where
  side : Nat
  /-- An empty register has no cells. -/
  registers : List (Option (List (List String)))
  environment : List (String × List (List String))
deriving DecidableEq, Repr

namespace State

/-- One line for a register. -/
def registerLine (index : Nat) (content : Option FloatMatrix) : String :=
  "R" ++ toString index ++ ": " ++
    (match content with
      | none => "Not initialized"
      | some m => m.text) ++ "\n"

/-- One line for each register. -/
def registerListing (s : State) : String :=
  String.join (s.registers.toList.zipIdx.map fun (content, index) => registerLine index content)

/-- One line for each variable, in the order of their names. -/
def variableListing (s : State) : String :=
  String.join (s.environment.bindings.map fun (name, value) =>
    "Var(" ++ name ++ "): " ++ value.text ++ "\n")

/-- The listing of the whole computer. -/
def status (s : State) : String :=
  "Quantum computer with " ++ toString s.registers.size ++ " registers of " ++
    toString s.registerSize ++ " qubits\n" ++
    "====== Registers ======\n" ++ s.registerListing ++
    "====== Variables ======\n" ++ s.variableListing

/-- The snapshot of a state. -/
def snapshot (s : State) : Snapshot :=
  ⟨s.side, s.registers.toList.map fun content => content.map DenseMatrix.cellTexts,
    s.environment.bindings.map fun (name, value) => (name, value.cellTexts)⟩

end State

end QuantumAssembler
