import QuantumAssembler.Console.Output
import QuantumAssembler.Machine.Report
import QuantumAssembler.Program

/-!
Module: QuantumAssembler.Console.Session
Purpose: A conversation with a computer, line by line. A line holds nothing, asks for something by
  a word, or is an instruction; white space at its ends does not count. A failing instruction is
  reported and the conversation goes on.
Main exports: Request, Request.ofLine, Session, Session.prompt, Session.greeting, Session.step,
  Session.converse, Session.afterLines, Session.afterLines_append
-/

namespace QuantumAssembler.Console

/-- What a line asks for. -/
inductive Request where
  | nothing
  | help
  | leave
  | showStatus
  | showRegisters
  | showVariables
  | execute (source : String)
deriving DecidableEq, Repr

namespace Request

/-- The words that ask for something. -/
def words : List (String × Request) :=
  [("help", help), ("?", help), ("exit", leave), ("quit", leave),
    ("status", showStatus), ("regs", showRegisters), ("vars", showVariables)]

/-- What a line asks for. -/
def ofLine (line : List Char) : Request :=
  if isIgnored line then nothing
  else
    let source := String.ofList (Text.trim line)
    (words.lookup source).getD (execute source)

end Request

/-- A conversation with a computer. -/
structure Session where
  computer : Computer
  /-- The name in the prompt. -/
  name : String
  filter : LogFilter

/-- What is shown when help is asked for. -/
def helpText : String :=
  "qsim: quantum assembler shell\n" ++
  "Instructions:\n" ++
  "  INITIALIZE R0 [0101...]   # zero or load a register\n" ++
  "  SELECT V1 R0 0 4          # copy cells into a variable\n" ++
  "  APPLY H R1 | MEASURE R0 x | X CONCAT A B | X TENSOR A B | X INVERSE M\n" ++
  "Shell:\n" ++
  "  status                    # registers and variables\n" ++
  "  regs                      # registers only\n" ++
  "  vars                      # variables only\n" ++
  "  help                      # show this help\n" ++
  "  exit | quit               # leave the shell\n\n"

namespace Session

/-- What stands in front of each line. -/
def prompt (s : Session) : Output :=
  .answer ("⟦" ++ s.name ++ "⟧ › ")

/-- What is written when a conversation begins. -/
def greeting (s : Session) : Output :=
  let state := s.computer.state
  .answer ("qsim: " ++ toString state.registers.size ++ " registers of " ++
    toString state.registerSize ++ " qubits  type 'help' for commands\n")

/-- What is written when the lines end without a word of leave. -/
def farewell : Output := .answer "\n"

/-- Reads a line as an instruction and executes it. -/
def execute [NormalForm] (s : Session) (source : String) : Session × List Output :=
  let (parsed, diagnostics) := readLine source
  let reading := s.filter.outputs (Event.ofText (NormalForm.normalize source.toList)) ++
    diagnostics.map fun d => .message ("warn: " ++ d.text ++ "\n")
  match parsed with
  | .error e => (s, reading ++ [.message ("parse error: " ++ e.text ++ "\n")])
  | .ok instruction =>
    let execution := s.computer.execute instruction
    let result := match execution.outcome with
      | .ok () => Output.answer ("ok " ++ instruction.text ++ "\n")
      | .error failure => .message ("execution error: " ++ failure.message ++ "\n")
    ({ s with computer := execution.computer },
      reading ++ s.filter.outputs execution.events ++ [result])

/-- Answers a request. Without a session in the answer the conversation is over. -/
def respond [NormalForm] (s : Session) : Request → Option Session × List Output
  | .nothing => (some s, [])
  | .help => (some s, [.answer helpText])
  | .leave => (none, [])
  | .showStatus => (some s, [.answer s.computer.state.status])
  | .showRegisters => (some s, [.answer s.computer.state.registerListing])
  | .showVariables =>
    let listing := s.computer.state.variableListing
    (some s, [.answer (if listing.isEmpty then "(no variables)\n" else listing)])
  | .execute source =>
    let (after, outputs) := s.execute source
    (some after, outputs)

/-- Answers a line. -/
def step [NormalForm] (s : Session) (line : List Char) : Option Session × List Output :=
  s.respond (Request.ofLine line)

/-- What is written while lines are answered, each behind a prompt. -/
def converse [NormalForm] (s : Session) : List (List Char) → List Output
  | [] => [s.prompt, farewell]
  | line :: rest =>
    match s.step line with
    | (none, outputs) => s.prompt :: outputs
    | (some after, outputs) => s.prompt :: (outputs ++ after.converse rest)

/-- The session after lines were answered, unless one of them ended it. -/
def afterLines [NormalForm] (s : Session) : List (List Char) → Option Session
  | [] => some s
  | line :: rest => (s.step line).1.bind fun after => after.afterLines rest

/-- Lines may be answered in two parts. -/
theorem afterLines_append [NormalForm] (s : Session) (front back : List (List Char)) :
    s.afterLines (front ++ back) =
      (s.afterLines front).bind fun after => after.afterLines back := by
  induction front generalizing s with
  | nil => rfl
  | cons line rest ih =>
    simp only [List.cons_append, afterLines]
    cases (s.step line).1 with
    | none => rfl
    | some after => exact ih after

end Session

end QuantumAssembler.Console
