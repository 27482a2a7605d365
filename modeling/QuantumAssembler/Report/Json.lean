import QuantumAssembler.Language.Instruction
import QuantumAssembler.Machine.Report

/-!
Module: QuantumAssembler.Report.Json
Purpose: Instructions and snapshots as JSON, laid out over lines with two blanks for each level. An
  empty list or object stays on its line.
Main exports: Json, Json.pretty, Instruction.json, Snapshot.json
-/

namespace QuantumAssembler

/-- The JSON values that reports are made of. -/
inductive Json where
  | null
  | number (n : Nat)
  | string (s : String)
  | array (items : List Json)
  | object (fields : List (String × Json))

namespace Json

/-- The last digit of a number in hexadecimal. -/
def hexDigit (n : Nat) : Char :=
  Nat.digitChar (n % 16)

/-- A character inside a string. -/
def escape (c : Char) : List Char :=
  match c with
  | '"' => ['\\', '"']
  | '\\' => ['\\', '\\']
  | '\n' => ['\\', 'n']
  | '\r' => ['\\', 'r']
  | '\t' => ['\\', 't']
  | '\x08' => ['\\', 'b']
  | '\x0c' => ['\\', 'f']
  | c =>
    if c.toNat < 0x20 then ['\\', 'u', '0', '0', hexDigit (c.toNat / 16), hexDigit c.toNat]
    else [c]

/-- A string in quotes. -/
def quoted (s : String) : String :=
  "\"" ++ String.ofList (s.toList.flatMap escape) ++ "\""

/-- The start of a line at a level. -/
def newLine (level : Nat) : String :=
  "\n" ++ String.ofList (List.replicate (2 * level) ' ')

mutual

/-- A value whose first line starts at a level. -/
def layout (level : Nat) : Json → String
  | null => "null"
  | number n => toString n
  | string s => quoted s
  | array [] => "[]"
  | array items =>
    "[" ++ ",".intercalate (layoutItems (level + 1) items) ++ newLine level ++ "]"
  | object [] => "\x7b\x7d"
  | object fields =>
    "\x7b" ++ ",".intercalate (layoutFields (level + 1) fields) ++ newLine level ++ "\x7d"

/-- The items of a list, each on a line of its own. -/
def layoutItems (level : Nat) : List Json → List String
  | [] => []
  | item :: rest => (newLine level ++ layout level item) :: layoutItems level rest

/-- The fields of an object, each on a line of its own. -/
def layoutFields (level : Nat) : List (String × Json) → List String
  | [] => []
  | (key, value) :: rest =>
    (newLine level ++ quoted key ++ ": " ++ layout level value) :: layoutFields level rest

end

/-- A value over as many lines as it takes. -/
def pretty (j : Json) : String :=
  j.layout 0

end Json

/-- A gate literal as JSON. -/
def Gate.json : Gate → Json
  | cnot => .string "Cnot"
  | hadamard => .string "H"
  | identity n => .object [("Identity", .number n)]

/-- A matrix operand as JSON. -/
def MatrixRef.json : MatrixRef → Json
  | gate g => .object [("Gate", g.json)]
  | named name => .object [("Variable", .string name)]
  | register index => .object [("Register", .number index)]

namespace Instruction

/-- The operands of an instruction by name. -/
def operands : Instruction → List (String × Json)
  | load register bits =>
    [("register", .number register), ("bitstring", (bits.map Json.string).getD .null)]
  | select target register offset count =>
    [("variable", .string target), ("register", .number register), ("offset", .number offset),
      ("count", .number count)]
  | apply matrix register => [("matrix", matrix.json), ("register", .number register)]
  | concat target left right =>
    [("variable", .string target), ("left", left.json), ("right", right.json)]
  | tensor target left right =>
    [("variable", .string target), ("left", left.json), ("right", right.json)]
  | measure register target => [("register", .number register), ("variable", .string target)]
  | inverse target matrix => [("variable", .string target), ("matrix", matrix.json)]

/-- An instruction as JSON: its kind, and its operands by name. -/
def json (i : Instruction) : Json :=
  .object [(i.kind.name, .object i.operands)]

end Instruction

namespace Snapshot

/-- Rows of cells as JSON. -/
def rowsJson (rows : List (List String)) : Json :=
  .array (rows.map fun cells => .array (cells.map .string))

/-- A snapshot as JSON. -/
def json (s : Snapshot) : Json :=
  .object
    [("side", .number s.side),
      ("registers", .array (s.registers.map fun content => (content.map rowsJson).getD .null)),
      ("variables", .object (s.environment.map fun (name, rows) => (name, rowsJson rows)))]

end Snapshot

end QuantumAssembler
