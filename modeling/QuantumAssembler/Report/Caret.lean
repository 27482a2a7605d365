import QuantumAssembler.Language.Sentence
import QuantumAssembler.Report.Style

/-!
Module: QuantumAssembler.Report.Caret
Purpose: The report of an error in a source line: a title, the place, the line itself behind its
  number, and carets under the columns at fault. The line and the carets stand behind margins of
  equal width.
Main exports: Span, Span.ofSyntaxError, Span.ofDiagnostic, renderError
-/

namespace QuantumAssembler

/-- A stretch of a source line; line and column are counted from one. -/
structure Span where
  line : Nat
  column : Nat
  length : Nat
deriving DecidableEq, Repr

namespace Span

/-- A stretch of one character. -/
def single (line column : Nat) : Span := ⟨line, column, 1⟩

/-- The place of a syntax error. -/
def ofSyntaxError (e : SyntaxError) : Span :=
  single e.position.line e.position.column

/-- The place of a diagnostic. -/
def ofDiagnostic (d : Diagnostic) : Span :=
  single d.position.line d.position.column

end Span

/-- A row of blanks. -/
def blanks (n : Nat) : String :=
  String.ofList (List.replicate n ' ')

/-- A number, set to the right in a field of at least four columns. -/
def paddedNumber (n : Nat) : String :=
  let digits := toString n
  blanks (4 - digits.length) ++ digits

/-- The carets under a span, behind blanks. At least one caret is set. -/
def underline (span : Span) : String :=
  blanks (span.column - 1) ++ String.ofList (List.replicate (max span.length 1) '^')

/-- The report of an error in a source line. -/
def renderError (coloured : Bool) (origin sourceLine title : String) (span : Span) : String :=
  let number := paddedNumber span.line
  let margin := blanks number.length
  let place := origin ++ ":" ++ toString span.line ++ ":" ++ toString span.column
  let dim := Style.dimmed.paint coloured
  Style.boldBrightRed.paint coloured "error:" ++ " " ++ Style.brightWhite.paint coloured title ++
    "\n" ++
  Style.brightBlue.paint coloured "-->" ++ " " ++ Style.brightWhite.paint coloured place ++ "\n" ++
  dim margin ++ " " ++ dim "|" ++ "\n" ++
  dim number ++ " " ++ dim "|" ++ " " ++ sourceLine ++ "\n" ++
  dim margin ++ " " ++ dim "|" ++ " " ++ Style.brightRed.paint coloured (underline span) ++ "\n"

end QuantumAssembler
