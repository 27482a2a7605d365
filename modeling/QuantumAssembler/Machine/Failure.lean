import QuantumAssembler.Algebra.Failure
import QuantumAssembler.Language.Instruction

/-!
Module: QuantumAssembler.Machine.Failure
Purpose: The causes for which a computer cannot be built or an instruction cannot be carried out,
  and their wording. None of them is fatal: the computer stays usable.
Main exports: MachineFailure, MachineFailure.message, liftAlgebra
-/

namespace QuantumAssembler

/-- Why a computer cannot be built or an instruction cannot be carried out. -/
inductive MachineFailure where
  | algebra (failure : AlgebraFailure)
  /-- Registers were asked for that have no rows. -/
  | noSide
  /-- A handler was given a kind of instruction that it does not know. -/
  | wrongKind (handler : String) (kind : InstructionKind)
  /-- A handler refuses an instruction in words of its own. -/
  | refused (message : String)
  /-- A bit-string that does not fill a register. -/
  | wrongBitCount (bits : String) (expected found : Nat)
  /-- A bit-string with a character that is no bit. -/
  | notABit (bits : String) (c : Char)
  | noSuchRegister (index count : Nat)
  /-- A selection that is empty or goes beyond the cells of a register. -/
  | selectionOutside (register start count size : Nat)
  /-- A selection that goes beyond the cells that a register in fact holds. -/
  | cellsMissing (register stop available : Nat)
  | uninitialized (register : Nat)
  | alreadyRegistered (handler : String)
  | noHandler (kind : InstructionKind)
deriving DecidableEq, Repr

namespace MachineFailure

/-- The wording of a failure. -/
def message : MachineFailure → String
  | algebra failure => failure.message
  | noSide => "Invalid operand: register side length must be at least 1"
  | wrongKind handler kind =>
    "Invalid operand: " ++ handler ++ " can't handle " ++ kind.name ++ " instructions"
  | refused message => "Invalid operand: " ++ message
  | wrongBitCount bits expected found =>
    "Invalid bit-string '" ++ bits ++ "': expected " ++ toString expected ++ " bits, found " ++
      toString found
  | notABit bits c =>
    "Invalid bit-string '" ++ bits ++ "': '" ++ c.toString ++ "' is not a binary digit"
  | noSuchRegister index count =>
    "Index out of range: register R" ++ toString index ++ " (computer has " ++ toString count ++
      " registers)"
  | selectionOutside register start count size =>
    "Index out of range: unable to select " ++ toString count ++ " elements from element " ++
      toString start ++ " of R" ++ toString register ++ " (" ++ toString size ++ " elements)"
  | cellsMissing register stop available =>
    "Index out of range: R" ++ toString register ++ " holds " ++ toString available ++
      " elements, not " ++ toString stop
  | uninitialized register =>
    "Can't access the value of register R" ++ toString register ++ ": not initialized"
  | alreadyRegistered handler => "Handler '" ++ handler ++ "' is already registered"
  | noHandler kind => "No handler registered for instruction " ++ kind.name

end MachineFailure

/-- Reads a failure of the algebra as one of the machine. -/
def liftAlgebra {β : Type} (result : Except AlgebraFailure β) : Except MachineFailure β :=
  result.mapError .algebra

end QuantumAssembler
