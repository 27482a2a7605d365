import QuantumAssembler.Log.Event
import QuantumAssembler.Pattern.Meaning
import QuantumAssembler.Pattern.Occurrence
import QuantumAssembler.Text.ControlSequence
import QuantumAssembler.Text.WhiteSpace

/-!
Module: QuantumAssembler.Console.LogFilter
Purpose: Which log records are shown. A filter is a list of directives with commas between them. A
  directive is a level, a name, or a name and a level with an equals sign between them; it holds for
  the parts of the program whose names begin with its name, and of several the one with the longest
  name decides. Behind a slash stands a pattern that has to occur in messages.
Main exports: Directive, LogFilter, LogFilter.ofText, LogFilter.shows, LogRecord.line
-/

namespace QuantumAssembler.Console

/-- The rank of the least severe level that is shown; nought shows nothing. -/
abbrev Threshold := Nat

/-- The threshold at which everything is shown. -/
def showAll : Threshold := Level.trace.rank

/-- The words for thresholds, in capital letters. -/
def thresholdWords : List (String × Threshold) :=
  [("OFF", 0), ("ERROR", 1), ("WARN", 2), ("INFO", 3), ("DEBUG", 4), ("TRACE", 5)]

/-- The threshold that a word names; capital and small letters count the same. -/
def threshold? (word : String) : Option Threshold :=
  thresholdWords.lookup (String.ofList (word.toList.map Char.toUpper))

/-- A directive: the start of the names that it holds for, and what is shown of them. -/
structure Directive where
  /-- No name stands for all parts of the program. -/
  name : Option String
  threshold : Threshold
deriving DecidableEq, Repr

/-- Which log records are shown. -/
structure LogFilter where
  directives : List Directive
  /-- The pattern that has to occur in messages. -/
  pattern : Option Pattern
deriving DecidableEq, Repr

/-- Reads one directive; a directive that cannot be read is answered by what is wrong with it. -/
def readDirective (spec : String) : Except String Directive :=
  match spec.splitOn "=" with
  | [word] =>
    match threshold? word with
    | some threshold => .ok ⟨none, threshold⟩
    | none => .ok ⟨some word, showAll⟩
  | [name, word] =>
    let word := String.ofList (Text.trim word.toList)
    if word = "" then .ok ⟨some name, showAll⟩
    else match threshold? word with
      | some threshold => .ok ⟨some name, threshold⟩
      | none => .error ("invalid logging spec '" ++ word ++ "'")
  | _ => .error ("invalid logging spec '" ++ spec ++ "'")

/-- Adds a directive; one for the same name is replaced where it stands. -/
def addDirective (d : Directive) : List Directive → List Directive
  | [] => [d]
  | first :: rest => if first.name = d.name then d :: rest else first :: addDirective d rest

/-- Reads directives in order; those that cannot be read are left out and complained about. -/
def readDirectives (specs : List String) : List Directive × List String :=
  specs.foldl (fun (directives, complaints) spec =>
    let spec := String.ofList (Text.trim spec.toList)
    if spec = "" then (directives, complaints)
    else match readDirective spec with
      | .ok d => (addDirective d directives, complaints)
      | .error complaint => (directives, complaints ++ [complaint])) ([], [])

/-- The length by which directives are ranked. -/
def Directive.weight (d : Directive) : Nat :=
  (d.name.map String.utf8ByteSize).getD 0

namespace LogFilter

/-- The filter of some directives; without any, errors are shown. -/
def ofDirectives (directives : List Directive) (pattern : Option Pattern) : LogFilter :=
  if directives.isEmpty then ⟨[⟨none, Level.error.rank⟩], pattern⟩
  else ⟨directives.mergeSort fun a b => a.weight ≤ b.weight, pattern⟩

/-- Reads a filter, with complaints about what cannot be read. A pattern that cannot be read filters
    nothing out. -/
def ofText (spec : String) : LogFilter × List String :=
  match spec.splitOn "/" with
  | [directives] =>
    let (found, complaints) := readDirectives (directives.splitOn ",")
    (ofDirectives found none, complaints)
  | [directives, text] =>
    let (found, complaints) := readDirectives (directives.splitOn ",")
    match Pattern.ofText text with
    | .ok pattern => (ofDirectives found (some pattern), complaints)
    | .error fault =>
      (ofDirectives found none, complaints ++ ["invalid regex filter - " ++ fault.report text])
  | _ => (ofDirectives [] none, ["invalid logging spec '" ++ spec ++ "' (too many '/'s)"])

/-- What is shown of a part of the program. -/
def thresholdFor (f : LogFilter) (source : String) : Threshold :=
  let holds (d : Directive) : Bool := match d.name with
    | none => true
    | some name => name.toList.isPrefixOf source.toList
  ((f.directives.reverse.find? holds).map Directive.threshold).getD 0

/-- Whether a record is shown. -/
def shows (f : LogFilter) (r : LogRecord) : Bool :=
  decide (r.level.rank ≤ f.thresholdFor r.source.name) &&
    f.pattern.all (·.occursIn r.message)

end LogFilter

end QuantumAssembler.Console

namespace QuantumAssembler

/-- A record as it is written: level and source in brackets, then the message, whose further lines
    are set in. -/
def LogRecord.written (r : LogRecord) : String :=
  let name := r.level.name
  let padding := String.ofList (List.replicate (5 - name.length) ' ')
  "[" ++ name ++ padding ++ " " ++ r.source.name ++ "] " ++ r.message.replace "\n" "\n    " ++ "\n"

/-- A record as it is shown. A control sequence in the message may swallow the end of the line. -/
def LogRecord.line (r : LogRecord) : String :=
  Text.withoutControls r.written

end QuantumAssembler
