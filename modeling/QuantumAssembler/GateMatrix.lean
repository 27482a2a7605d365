import QuantumAssembler.Language.Instruction
import QuantumAssembler.Machine.Failure
import QuantumAssembler.Machine.Variables

/-!
Module: QuantumAssembler.GateMatrix
Purpose: The matrices that literals of the language stand for: the matrix of each gate, and the
  square matrix that a bit-string writes row by row.
Main exports: Gate.matrix, cellOfBit?, registerOfBits
-/

namespace QuantumAssembler

/-! ### Gates -/

namespace Gate

/-- The Hadamard gate on one qubit. -/
def hadamardMatrix : DenseMatrix (Scalar Float) :=
  let s : Float := 1.0 / Float.sqrt 2.0
  ⟨2, 2, #[⟨s, 0.0⟩, ⟨s, 0.0⟩, ⟨s, 0.0⟩, ⟨-s, 0.0⟩], by decide, by decide, rfl⟩

/-- The controlled negation on two qubits; the more significant one controls. It exchanges the last
    two of the four basis states. -/
def cnotMatrix : DenseMatrix (Scalar Float) :=
  .ofFn 4 4 (by decide) (by decide) fun i j =>
    let target := if i.val = 2 then 3 else if i.val = 3 then 2 else i.val
    if j.val = target then 1 else 0

/-- The matrix of a gate; the identity of size nought has none. -/
def matrix : Gate → Except AlgebraFailure (DenseMatrix (Scalar Float))
  | cnot => .ok cnotMatrix
  | hadamard => .ok hadamardMatrix
  | identity size => DenseMatrix.identity size

end Gate

/-! ### Bit-strings -/

/-- The cell that a bit writes. -/
def cellOfBit? : Char → Option (Scalar Float)
  | '0' => some 0
  | '1' => some 1
  | _ => none

/-- The cells that a row of bits writes; the first character that is no bit is to blame. -/
def cellsOfBits (bits : String) : List Char → Except MachineFailure (List (Scalar Float))
  | [] => .ok []
  | c :: rest =>
    match cellOfBit? c with
    | none => .error (.notABit bits c)
    | some cell => (cellsOfBits bits rest).map (cell :: ·)

/-- The square matrix that a bit-string writes row by row. Its length is judged before its
    characters. -/
def registerOfBits (bits : String) (side : Nat) : Except MachineFailure FloatMatrix := do
  let expected := Shape.cellCount ⟨side, side⟩
  if bits.length ≠ expected then
    .error (.wrongBitCount bits expected bits.length)
  else
    let cells ← cellsOfBits bits bits.toList
    liftAlgebra (DenseMatrix.ofFlat side side cells.toArray)

end QuantumAssembler
