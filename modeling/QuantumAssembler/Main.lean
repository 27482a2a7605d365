import QuantumAssembler.Console.Directory
import QuantumAssembler.Console.Invocation

/-!
Module: QuantumAssembler.Main
Purpose: The program. It reads the files that the command line asks for, writes what the invocation
  answers, and in a conversation hands over one line after the other.
Main exports: main
-/

namespace QuantumAssembler.Console

/-- Writes one output on its channel. -/
def write : Output → IO Unit
  | .answer text => do
    let channel ← IO.getStdout
    channel.putStr text
    channel.flush
  | .message text => do (← IO.getStderr).putStr text

/-- Reads a file. -/
def readFile (path : String) : IO (Except ReadFailure String) := do
  try
    return textOf (← IO.FS.readBinFile path)
  catch
    | .noFileOrDirectory .. => return .error .missing
    | .inappropriateType _ 21 _ => return .error .isDirectory
    | .inappropriateType .. => return .error .notADirectory
    | .invalidArgument .. => return .error .nameTooLong
    | other => throw other

/-- Holds a conversation until a line ends it or there are no more lines. -/
partial def hold (s : Session) : IO Unit := do
  write s.prompt
  let line ← (← IO.getStdin).getLine
  if line.isEmpty then write Session.farewell
  else
    let (after, outputs) := s.step line.toList
    outputs.forM write
    match after with
    | some next => hold next
    | none => return

/-- Starts the program and sees it to its end. -/
def start (words : List String) : IO Nat := do
  let settingsFile := (← IO.getEnv "HOME").map settingsFileIn
  let contents ← (filesOf settingsFile words).mapM fun path => do return (path, ← readFile path)
  let read (path : String) := (contents.lookup path).getD (.error .missing)
  match invoke ⟨settingsFile, read⟩ words with
  | .finished answer =>
    answer.outputs.forM write
    return answer.code
  | .conversation before s =>
    before.forM write
    write s.greeting
    hold s
    return 0

end QuantumAssembler.Console

/-- The entry of the program. -/
def main (words : List String) : IO UInt32 := do
  return (← QuantumAssembler.Console.start words).toUInt32
