import QuantumAssembler.Console.Output
import QuantumAssembler.Machine.Report
import QuantumAssembler.Program
import QuantumAssembler.Report.Caret
import QuantumAssembler.Report.Json
import QuantumAssembler.Settings.Basic

/-!
Module: QuantumAssembler.Console.Commands
Purpose: The commands that work on one input and end: running a program, listing the tokens of a
  file, and reading a single instruction. Each is a function from its input to all that is written.
Main exports: Answer.ofRun, Answer.ofTokens, Answer.ofParse
-/

namespace QuantumAssembler.Console

/-- What is written about what happens during the run of the program at `path`. -/
def effectOutputs (filter : LogFilter) (path : String) : Effect → List Output
  | .event e => filter.outputsOfRecord e.record
  | .warning line d =>
    [.message ("warn: " ++ path ++ ":" ++ toString line ++ ": " ++ d.text ++ "\n")]

/-- The report of the error that stopped a run. -/
def runErrorReport (path : String) (e : RunError) : String :=
  match e.fault with
  | .unreadable error =>
    renderError false path e.text ("Parsing error: " ++ error.message)
      (.single e.line error.position.column) ++ "\n"
  | .failed failure =>
    "execution error: " ++ path ++ ":" ++ toString e.line ++ ": " ++ failure.message ++ "\n" ++
      "  | " ++ String.ofList (Text.trim e.text.toList) ++ "\n"

/-- What a computer shows of itself after a run. -/
def stateReport (json : Bool) (s : State) : String :=
  if json then s.snapshot.json.pretty ++ "\n" else s.status

/-- The record of a completed run. -/
def completion (path : String) (executed : Nat) : LogRecord :=
  ⟨.info, .execution, path ++ ": executed " ++ toString executed ++ " instructions"⟩

namespace Answer

/-- The answer to running a program on a given computer. -/
def ofProgram [NormalForm] (filter : LogFilter) (path source : String) (json : Bool)
    (c : Computer) : Answer :=
  let run := runSource c source
  let trail := run.trail.flatMap (effectOutputs filter path)
  match run.outcome with
  | .ok executed =>
    success (trail ++ filter.outputsOfRecord (completion path executed) ++
      [.answer (stateReport json run.computer.state)])
  | .error e =>
    failure (trail ++ [.message (runErrorReport path e)])
      (path ++ " stopped at " ++ e.message) none

/-- The answer to running the program at `path` on a fresh computer. The program is read before the
    computer is built. -/
def ofRun [NormalForm] (filter : LogFilter) (s : Settings) (path : String)
    (content : Except ReadFailure String) (json : Bool) : Answer :=
  match content with
  | .error why => failure [] ("Read program " ++ path) (some why.text)
  | .ok source =>
    let building := filter.outputs (Computer.buildEvents (Computer.standardHandlers s.trace) s.side)
    match Computer.standard s.side s.registers s.trace with
    | .error fault => failure building "Create computer" (some fault.message)
    | .ok c => (ofProgram filter path source json c).after building

/-- The line of a source text with the given number, which counts from one. -/
def sourceLine (source : String) (number : Nat) : String :=
  ((Text.linesOf source)[number - 1]?).getD ""

/-- The reports of rejected stretches of a file, behind their number. -/
def diagnosticOutputs (path source : String) (diagnostics : List Diagnostic) : List Output :=
  if diagnostics.isEmpty then []
  else
    [.answer "\n",
      .message ("warn: " ++ toString diagnostics.length ++ " lexer diagnostic(s)\n")] ++
    diagnostics.map fun d =>
      .message (renderError false path (sourceLine source d.position.line) d.text
        (.ofDiagnostic d) ++ "\n")

/-- The answer to listing the tokens of the file at `path`. -/
def ofTokens [NormalForm] (filter : LogFilter) (path : String)
    (content : Except ReadFailure String) : Answer :=
  match content with
  | .error why => failure [] ("Read " ++ path) (some why.text)
  | .ok source =>
    let (tokens, diagnostics) := tokenizeSource source
    success (filter.outputs (Event.ofText (NormalForm.normalize source.toList)) ++
      [.answer ("=== Tokens ===\n" ++ String.join (tokens.map fun t => t.text ++ "\n"))] ++
      diagnosticOutputs path source diagnostics)

/-- The answer to reading a single instruction. -/
def ofParse [NormalForm] (filter : LogFilter) (line : String) (json : Bool) : Answer :=
  let reading := filter.outputs (Event.ofText (NormalForm.normalize line.toList))
  match (readLine line).1 with
  | .ok instruction =>
    success (reading ++
      [.answer ((if json then instruction.json.pretty else instruction.text) ++ "\n")])
  | .error e =>
    failure (reading ++ [.message (renderError false "<line>" line ("Parsing error: " ++ e.message)
      (.ofSyntaxError e) ++ "\n")]) "invalid instruction" none

end Answer

end QuantumAssembler.Console
