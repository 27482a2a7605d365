import QuantumAssembler.Language.Sentence
import QuantumAssembler.Machine.Dispatch
import QuantumAssembler.Text.Lines
import QuantumAssembler.Text.WhiteSpace

/-!
Module: QuantumAssembler.Program
Purpose: Running a program: its lines in order, one instruction a line. Blank lines and comments are
  passed over. The run stops at the first line that is no instruction or that fails; the computer is
  then as the lines before have left it. A run keeps what happened on the way in order.
Main exports: isIgnored, RunFault, RunError, Effect, Run, runLines, runSource
-/

namespace QuantumAssembler

/-- Whether a line holds no instruction: nothing but white space, or a comment. -/
def isIgnored (line : List Char) : Bool :=
  match Text.trim line with
  | [] => true
  | c :: _ => c == '#'

/-- Why a run stopped. -/
inductive RunFault where
  | unreadable (e : SyntaxError)
  | failed (failure : MachineFailure)
deriving DecidableEq, Repr

/-- Where and why a run stopped; lines are counted from one. -/
structure RunError where
  line : Nat
  text : String
  fault : RunFault
deriving DecidableEq, Repr

namespace RunError

/-- The wording of the end of a run. -/
def message (e : RunError) : String :=
  "line " ++ toString e.line ++
    match e.fault with
    | .unreadable error => ": parse error: " ++ error.text
    | .failed failure => ": execution error: " ++ failure.message

end RunError

/-- What happens during a run, besides changes of the computer. -/
inductive Effect where
  | event (e : Event)
  /-- A stretch of the given line was rejected and passed over. -/
  | warning (line : Nat) (d : Diagnostic)
deriving DecidableEq, Repr

/-- A finished run: the computer afterwards, what happened in order, and the number of instructions
    executed or the reason for which the run stopped. -/
structure Run where
  computer : Computer
  trail : List Effect
  outcome : Except RunError Nat

namespace Run

/-- The run with something that happened before it. -/
def after (effects : List Effect) (r : Run) : Run :=
  { r with trail := effects ++ r.trail }

end Run

/-- The effects of reading line `number`. -/
def readingEffects [NormalForm] (number : Nat) (source : String) (diagnostics : List Diagnostic) :
    List Effect :=
  (Event.ofText (NormalForm.normalize source.toList)).map .event ++
    diagnostics.map (.warning number)

/-- Runs lines, the first of which has the given number, after `executed` instructions. -/
def runLines [NormalForm] (c : Computer) (executed number : Nat) : List (List Char) → Run
  | [] => ⟨c, [], .ok executed⟩
  | line :: rest =>
    if isIgnored line then runLines c executed (number + 1) rest
    else
      let source := String.ofList line
      let (parsed, diagnostics) := readLine source
      let reading := readingEffects number source diagnostics
      match parsed with
      | .error e => ⟨c, reading, .error ⟨number, source, .unreadable e⟩⟩
      | .ok instruction =>
        let execution := c.execute instruction
        let effects := reading ++ execution.events.map .event
        match execution.outcome with
        | .error failure =>
          ⟨execution.computer, effects, .error ⟨number, source, .failed failure⟩⟩
        | .ok () => (runLines execution.computer (executed + 1) (number + 1) rest).after effects

/-- Runs a whole program. -/
def runSource [NormalForm] (c : Computer) (source : String) : Run :=
  runLines c 0 1 (Text.lines source.toList)

end QuantumAssembler
