import QuantumAssembler.Pattern.Expression
import QuantumAssembler.Text.Lines

/-!
Module: QuantumAssembler.Pattern.Fault
Purpose: What can be wrong with a pattern, and the report of it: the pattern line by line, with
  carets under the stretches at fault. The lines of a pattern that has several are numbered.
Main exports: Cause, Cause.text, Fault, Fault.report
-/

namespace QuantumAssembler.Pattern

/-- What can be wrong with a part of a pattern. -/
inductive Cause where
  | noClassEscape
  | rangeReversed
  | rangeOfSets
  | unclosedClass
  | decimalTooLarge
  | noCodePoint
  | noCharacter
  | noHexDigit
  | escapeAtEnd
  | unknownEscape
  | danglingNegation
  | duplicateFlag
  | repeatedNegation
  | flagsAtEnd
  | unknownFlag
  | duplicateName
  | emptyName
  | badName
  | nameAtEnd
  | unclosedGroup
  | unopenedGroup
  | tooDeep
  | countReversed
  | noCount
  | unclosedCount
  | nothingToRepeat
  | unclosedBoundary
  | unknownBoundary
  | boundaryAtEnd
  | badProperty
  | backReference
  | lookAround
  /-- A part asks for other scripts while only characters of seven bits are allowed. -/
  | otherScripts
  | brokenText
  | unknownProperty
  | unknownPropertyValue
  | noScripts
  | noCases
deriving DecidableEq, Repr

/-- The wording of a cause. -/
def Cause.text : Cause → String
  | noClassEscape => "invalid escape sequence found in character class"
  | rangeReversed => "invalid character class range, the start must be <= the end"
  | rangeOfSets => "invalid range boundary, must be a literal"
  | unclosedClass => "unclosed character class"
  | decimalTooLarge => "decimal literal invalid"
  | noCodePoint => "hexadecimal literal empty"
  | noCharacter => "hexadecimal literal is not a Unicode scalar value"
  | noHexDigit => "invalid hexadecimal digit"
  | escapeAtEnd => "incomplete escape sequence, reached end of pattern prematurely"
  | unknownEscape => "unrecognized escape sequence"
  | danglingNegation => "dangling flag negation operator"
  | duplicateFlag => "duplicate flag"
  | repeatedNegation => "flag negation operator repeated"
  | flagsAtEnd => "expected flag but got end of regex"
  | unknownFlag => "unrecognized flag"
  | duplicateName => "duplicate capture group name"
  | emptyName => "empty capture group name"
  | badName => "invalid capture group character"
  | nameAtEnd => "unclosed capture group name"
  | unclosedGroup => "unclosed group"
  | unopenedGroup => "unopened group"
  | tooDeep => "exceed the maximum number of nested parentheses/brackets (" ++
      toString depthLimit ++ ")"
  | countReversed => "invalid repetition count range, the start must be <= the end"
  | noCount => "repetition quantifier expects a valid decimal"
  | unclosedCount => "unclosed counted repetition"
  | nothingToRepeat => "repetition operator missing expression"
  | unclosedBoundary =>
    "special word boundary assertion is either unclosed or contains an invalid character"
  | unknownBoundary => "unrecognized special word boundary assertion, valid choices are: " ++
      "start, end, start-half or end-half"
  | boundaryAtEnd => "found either the beginning of a special word boundary or a bounded " ++
      "repetition on a \\b with an opening brace, but no closing brace"
  | badProperty => "invalid Unicode character class"
  | backReference => "backreferences are not supported"
  | lookAround => "look-around, including look-ahead and look-behind, is not supported"
  | otherScripts => "Unicode not allowed here"
  | brokenText => "pattern can match invalid UTF-8"
  | unknownProperty => "Unicode property not found"
  | unknownPropertyValue => "Unicode property value not found"
  | noScripts => "Unicode-aware Perl class not found " ++
      "(make sure the unicode-perl feature is enabled)"
  | noCases => "Unicode-aware case insensitivity matching is not available " ++
      "(make sure the unicode-case feature is enabled)"

/-- The most bytes that the automaton of a pattern may take. -/
def sizeLimit : Nat := 10485760

/-- What is wrong with a pattern. -/
inductive Fault where
  /-- A stretch is at fault; an earlier one may be what it contradicts. -/
  | placed (cause : Cause) (place : Stretch) (earlier : Option Stretch)
  | tooLarge
  /-- The pattern asks for the words of all scripts, which are not known. -/
  | noWords
deriving DecidableEq, Repr

/-! ### The report -/

/-- Whether a stretch begins and ends in one line. -/
def Stretch.isInLine (s : Stretch) : Bool :=
  s.start.line == s.stop.line

/-- Whether a stretch comes first: the one that starts first, and of two the one that stops
    first. -/
def Stretch.comesFirst (s t : Stretch) : Bool :=
  let key (p : Position) (q : Position) := p.line < q.line ∨ p.line = q.line ∧ p.column ≤ q.column
  if s.start = t.start then key s.stop t.stop else key s.start t.start

/-- The carets under the stretches of a line, from a column on. Each stretch has at least one. -/
def caretsFrom (column : Nat) : List Stretch → String
  | [] => ""
  | s :: rest =>
    let width := max 1 (s.stop.column - s.start.column)
    let first := max column s.start.column
    String.ofList (List.replicate (first - column) ' ' ++ List.replicate width '^') ++
      caretsFrom (first + width) rest

/-- A line of a pattern, with carets under the stretches in it. `width` is the width of line
    numbers, nought if lines are not numbered. -/
def notedLine (width number : Nat) (line : String) (stretches : List Stretch) : String :=
  let digits := toString number
  let margin := if width = 0 then "    "
    else String.ofList (List.replicate (width - digits.length) ' ') ++ digits ++ ": "
  let notes := stretches.filter (·.start.line == number)
  margin ++ line ++ "\n" ++
    if notes.isEmpty then ""
    else String.ofList (List.replicate margin.length ' ') ++ caretsFrom 1 notes ++ "\n"

/-- The note of a stretch of several lines. -/
def linesNote (s : Stretch) : String :=
  "on line " ++ toString s.start.line ++ " (column " ++ toString s.start.column ++
    ") through line " ++ toString s.stop.line ++ " (column " ++ toString (s.stop.column - 1) ++ ")"

/-- The report of a fault in some stretches of a pattern. -/
def stretchReport (pattern : String) (stretches : List Stretch) (cause : Cause) : String :=
  let stretches := stretches.mergeSort Stretch.comesFirst
  let lines := Text.linesOf pattern
  let count := lines.length + if pattern.endsWith "\n" then 1 else 0
  let width := if count ≤ 1 then 0 else (toString count).length
  let noted := String.join <| lines.zipIdx.map fun (line, i) =>
    notedLine width (i + 1) line (stretches.filter Stretch.isInLine)
  let long := (stretches.filter (!·.isInLine)).map linesNote
  "regex parse error:\n" ++
    (if pattern.contains '\n' then
      let rule := String.ofList (List.replicate 79 '~') ++ "\n"
      rule ++ noted ++ rule ++ if long.isEmpty then "" else String.intercalate "\n" long ++ "\n"
    else noted) ++
    "error: " ++ cause.text

/-- The report of what is wrong with a pattern. -/
def Fault.report (f : Fault) (pattern : String) : String :=
  match f with
  | placed cause place earlier => stretchReport pattern (place :: earlier.toList) cause
  | tooLarge => "Compiled regex exceeds size limit of " ++ toString sizeLimit ++ " bytes."
  | noWords => "error building NFA"

end QuantumAssembler.Pattern
