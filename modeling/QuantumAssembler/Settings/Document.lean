import QuantumAssembler.Settings.Basic
import QuantumAssembler.Settings.Literal

/-!
Module: QuantumAssembler.Settings.Document
Purpose: The reading of a settings file. Each line is blank, a comment, or sets one of the five
  settings; none may be set twice, and what is not set keeps its default. A key may stand in
  quotes.
Main exports: Key, entries?, Settings.ofEntries?, Settings.ofText?
-/

namespace QuantumAssembler

/-- The keys of a settings file. -/
inductive Settings.Key where
  | registers
  | side
  | trace
  | logLevel
  | prompt
deriving DecidableEq, Repr

namespace Settings

/-- Every key once, in the order in which settings are written. -/
def Key.all : List Key :=
  [.registers, .side, .trace, .logLevel, .prompt]

/-- The spelling of a key. -/
def Key.word : Key → String
  | .registers => "registers"
  | .side => "side"
  | .trace => "trace"
  | .logLevel => "log_level"
  | .prompt => "prompt"

/-- The key with a spelling, if there is one. -/
def Key.ofWord? (word : List Char) : Option Key :=
  Key.all.find? fun k => k.word.toList == word

/-! ### Lines -/

/-- The characters of keys without quotes. -/
def isKeyPart (c : Char) : Bool :=
  c.isAlphanum || c == '-' || c == '_'

/-- Reads a key, in quotes or without. -/
def readKey? (cs : List Char) : Option (Key × List Char) :=
  match cs with
  | '"' :: rest => do
    let (word, after) ← quotedBody rest
    return (← Key.ofWord? word, after)
  | '\'' :: rest => do
    let (word, after) ← literalBody rest
    return (← Key.ofWord? word, after)
  | _ => do return (← Key.ofWord? (cs.takeWhile isKeyPart), cs.dropWhile isKeyPart)

/-- Passes over blanks. -/
def skipBlanks (cs : List Char) : List Char :=
  cs.dropWhile isBlank

/-- Passes over a comment, if one begins here. -/
def skipComment : List Char → List Char
  | '#' :: rest => rest.dropWhile isPlain
  | cs => cs

/-- Passes over the rest of a line that holds nothing more, up to the next line or the end. -/
def finishLine? (cs : List Char) : Option (List Char) :=
  match skipComment (skipBlanks cs) with
  | [] => some []
  | rest => lineEnd? rest

/-- Reads a key, the equals sign and a value. -/
def entry (cs : List Char) : Option ((Key × Item) × List Char) := do
  let (key, rest) ← readKey? cs
  match skipBlanks rest with
  | '=' :: rest =>
    let (item, rest) ← Item.read? (skipBlanks rest)
    return ((key, item), rest)
  | _ => none

/-- Reads one line: what it sets, if anything, and the lines behind it. -/
def line? (cs : List Char) : Option (Option (Key × Item) × List Char) :=
  let cs := skipBlanks cs
  match cs with
  | [] | '#' :: _ | '\r' :: _ | '\n' :: _ => do return (none, ← finishLine? cs)
  | _ => do
    let (found, rest) ← entry cs
    return (some found, ← finishLine? rest)

/-- Reads lines up to the end of the text. A line is at least one character long. -/
def entries? (cs : List Char) : Option (List (Key × Item)) :=
  if cs = [] then some []
  else match line? cs with
    | none => none
    | some (found, rest) =>
      if _shorter : rest.length < cs.length then
        (entries? rest).map (found.toList ++ ·)
      else none
termination_by cs.length

/-! ### Settings -/

/-- Settings with one of them changed, if the value is of its kind. -/
def assign? (s : Settings) : Key → Item → Option Settings
  | .registers, .number n => some { s with registers := n }
  | .side, .number n => some { s with side := n }
  | .trace, .truth b => some { s with trace := b }
  | .logLevel, .string text => some { s with logLevel := String.ofList text }
  | .prompt, .string text => some { s with prompt := String.ofList text }
  | _, _ => none

/-- The settings that entries make; no key may occur twice. -/
def ofEntries? (entries : List (Key × Item)) : Option Settings :=
  if (entries.map (·.1)).Nodup then entries.foldlM (fun s (key, item) => s.assign? key item) {}
  else none

/-- The settings that a text writes. A byte order mark in front is passed over. -/
def ofText? (text : String) : Option Settings := do
  let cs := match text.toList with
    | '\ufeff' :: rest => rest
    | cs => cs
  ofEntries? (← entries? cs)

end Settings

end QuantumAssembler
