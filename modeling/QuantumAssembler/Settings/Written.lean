import QuantumAssembler.Settings.Document

/-!
Module: QuantumAssembler.Settings.Written
Purpose: The text of settings, one line for each. A string is written in the plainest form that
  holds it: double quotes if nothing has to be escaped, else single quotes, else three double or
  three single quotes without escapes, and else double quotes with escapes. Long forms begin on a
  new line if the string has line feeds.
Main exports: StringForm, StringForm.of, StringForm.write, Settings.written?, Settings.lineFormat
-/

namespace QuantumAssembler.Settings

/-- The four written forms of strings. -/
inductive StringForm where
  | quoted
  | literal
  | longQuoted
  | longLiteral
deriving DecidableEq, Repr

/-- Whether a character can only be written by an escape: a control character other than the tab and
    the line feed. -/
def needsEscape (c : Char) : Bool :=
  (c.toNat < 0x20 && c != '\t' && c != '\n') || c.toNat == 0x7F

/-- Whether a character stands three or more times in a row. -/
def hasTriple (c : Char) : List Char → Bool
  | d :: e :: f :: rest => (d == c && e == c && f == c) || hasTriple c (e :: f :: rest)
  | _ => false

namespace StringForm

/-- The form in which a string is written. -/
def of (s : List Char) : StringForm :=
  let clean := !s.any needsEscape
  let oneLine := !s.contains '\n'
  if clean && oneLine && !s.contains '\\' && !s.contains '"' then quoted
  else if clean && oneLine && !s.contains '\'' then literal
  else if clean && !s.contains '\\' && !hasTriple '"' s then longQuoted
  else if clean && !hasTriple '\'' s then longLiteral
  else if oneLine then quoted
  else longQuoted

/-- The quotes around a string in this form. -/
def delimiter : StringForm → List Char
  | quoted => ['"']
  | literal => ['\'']
  | longQuoted => ['"', '"', '"']
  | longLiteral => ['\'', '\'', '\'']

end StringForm

/-- A digit of a numeric escape. -/
def escapeDigit (n : Nat) : Char :=
  (Nat.digitChar (n % 16)).toUpper

/-- A character, other than a double quote, inside a string with escapes. -/
def escaped (long : Bool) (c : Char) : List Char :=
  match c with
  | '\x08' => ['\\', 'b']
  | '\t' => ['\\', 't']
  | '\n' => if long then ['\n'] else ['\\', 'n']
  | '\x0c' => ['\\', 'f']
  | '\r' => ['\\', 'r']
  | '\\' => ['\\', '\\']
  | c =>
    if c.toNat < 0x20 || c.toNat == 0x7F then
      ['\\', 'u', '0', '0', escapeDigit (c.toNat / 16), escapeDigit c.toNat]
    else [c]

/-- The inside of a string with escapes. Of `allowed` double quotes in a row none is escaped;
    `quotes` of them stand directly in front. -/
def escapedBody (long : Bool) (allowed : Nat) : Nat → List Char → List Char
  | _, [] => []
  | quotes, c :: rest =>
    if c = '"' then
      if quotes < allowed then '"' :: escapedBody long allowed (quotes + 1) rest
      else '\\' :: '"' :: escapedBody long allowed 0 rest
    else escaped long c ++ escapedBody long allowed 0 rest

/-- The inside of a string in a form. -/
def StringForm.body (form : StringForm) (s : List Char) : List Char :=
  match form with
  | quoted => escapedBody false 0 0 s
  | literal => s
  | longQuoted => (if s.contains '\n' then ['\n'] else []) ++ escapedBody true 2 0 s
  | longLiteral => (if s.contains '\n' then ['\n'] else []) ++ s

/-- A string in a form. -/
def StringForm.write (form : StringForm) (s : List Char) : List Char :=
  form.delimiter ++ form.body s ++ form.delimiter

/-- The written form of a string. -/
def writeString (s : String) : String :=
  String.ofList ((StringForm.of s.toList).write s.toList)

/-- The lines that write settings. Numbers that files cannot hold are refused. -/
def written? (s : Settings) : Option String :=
  if s.registers < numberBound ∧ s.side < numberBound then
    let line (key : Key) (value : String) := key.word ++ " = " ++ value ++ "\n"
    some (line .registers (toString s.registers) ++ line .side (toString s.side) ++
      line .trace (if s.trace then "true" else "false") ++
      line .logLevel (writeString s.logLevel) ++ line .prompt (writeString s.prompt))
  else none

/-- Settings files have one line for each setting. -/
instance lineFormat : Format := ⟨ofText?, written?⟩

end QuantumAssembler.Settings
