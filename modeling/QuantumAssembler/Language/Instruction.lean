/-!
Module: QuantumAssembler.Language.Instruction
Purpose: The instructions of the assembly language with their operands, the kinds of instruction,
  and the wording in which instructions are reported.
Main exports: Gate, MatrixRef, Instruction, InstructionKind, Instruction.kind, Instruction.text
-/

namespace QuantumAssembler

/-- The gates that have a literal. -/
inductive Gate where
  | cnot
  | hadamard
  | identity (size : Nat)
deriving DecidableEq, Repr

/-- What an instruction accepts where it asks for a matrix. -/
inductive MatrixRef where
  | gate (g : Gate)
  | named (name : String)
  | register (index : Nat)
deriving DecidableEq, Repr

/-- One instruction. The operands stand in the order in which the language writes them. -/
inductive Instruction where
  /-- Fill a register with zeros, or with the given bits row by row. -/
  | load (register : Nat) (bits : Option String)
  /-- Copy `count` consecutive cells of a register, from cell `offset` on, into a variable. -/
  | select (target : String) (register offset count : Nat)
  | apply (matrix : MatrixRef) (register : Nat)
  | concat (target : String) (left right : MatrixRef)
  | tensor (target : String) (left right : MatrixRef)
  | measure (register : Nat) (target : String)
  | inverse (target : String) (matrix : MatrixRef)
deriving DecidableEq, Repr

/-- The kinds of instruction. -/
inductive InstructionKind where
  | load
  | select
  | apply
  | concat
  | tensor
  | measure
  | inverse
deriving DecidableEq, Repr

namespace InstructionKind

/-- Every kind of instruction once. -/
def all : List InstructionKind :=
  [load, select, apply, concat, tensor, measure, inverse]

/-- The name of a kind in messages. -/
def name : InstructionKind → String
  | load => "Initialize"
  | select => "Select"
  | apply => "Apply"
  | concat => "Concat"
  | tensor => "Tensor"
  | measure => "Measure"
  | inverse => "Inverse"

theorem mem_all (k : InstructionKind) : k ∈ all := by
  cases k <;> decide

end InstructionKind

namespace Gate

/-- The literal of a gate. -/
def text : Gate → String
  | cnot => "CNOT"
  | hadamard => "H"
  | identity n => "I" ++ toString n

end Gate

namespace Instruction

/-- The kind of an instruction. -/
def kind : Instruction → InstructionKind
  | load .. => .load
  | select .. => .select
  | apply .. => .apply
  | concat .. => .concat
  | tensor .. => .tensor
  | measure .. => .measure
  | inverse .. => .inverse

/-- How reports name a register. -/
def registerText (index : Nat) : String :=
  "R[" ++ toString index ++ "]"

/-- How reports name a variable. -/
def variableText (name : String) : String :=
  "Var[" ++ name ++ "]"

/-- How reports name a matrix operand. -/
def matrixText : MatrixRef → String
  | .gate g => g.text
  | .named name => variableText name
  | .register index => registerText index

/-- The sentence that reports an instruction. -/
def text : Instruction → String
  | load register none => "Initialize " ++ registerText register
  | load register (some bits) =>
    "Initialize " ++ registerText register ++ " with value '" ++ bits ++ "'"
  | select target register offset count =>
    "Select " ++ toString count ++ " elements of " ++ registerText register ++ " from " ++
      toString offset ++ " into " ++ variableText target
  | apply matrix register => "Apply " ++ matrixText matrix ++ " to " ++ registerText register
  | concat target left right =>
    "Concat " ++ matrixText left ++ " and " ++ matrixText right ++ " into " ++ variableText target
  | tensor target left right =>
    "Tensor " ++ matrixText left ++ " with " ++ matrixText right ++ " into " ++ variableText target
  | measure register target =>
    "Measure " ++ registerText register ++ " into " ++ variableText target
  | inverse target matrix => "Invert " ++ matrixText matrix ++ " into " ++ variableText target

end Instruction

end QuantumAssembler
