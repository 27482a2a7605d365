import QuantumAssembler.Pattern.Reader.Basic
import QuantumAssembler.Text.CodePoint

/-!
Module: QuantumAssembler.Pattern.Reader.Escape
Purpose: What a backslash begins in a pattern: characters that stand for themselves, characters
  written by their code point, sets written by a letter or by a property, and assertions.
Main exports: readEscape
-/

namespace QuantumAssembler.Pattern

open Reading

/-- The characters that may mean something else than themselves in a pattern. -/
def signs : List Char :=
  ['\\', '.', '+', '*', '?', '(', ')', '|', '[', ']', '\x7b', '\x7d', '^', '$', '#', '&', '-', '~']

/-- Whether a backslash makes a character stand for itself: signs and all other characters of seven
    bits but digits, letters and angle brackets. -/
def isEscapable (c : Char) : Bool :=
  signs.contains c || (c.toNat < 0x80 && !c.isAlphanum && c != '<' && c != '>')

/-- The control characters that are written by a letter. -/
def controlLetters : List (Char × Char) :=
  [('a', '\x07'), ('f', '\x0c'), ('t', '\t'), ('n', '\n'), ('r', '\r'), ('v', '\x0b')]

/-- The sets that are written by a letter, and by its capital if they are negated. -/
def setLetters : List (Char × NamedSet × Bool) :=
  [('d', .digit, false), ('s', .space, false), ('w', .word, false),
   ('D', .digit, true), ('S', .space, true), ('W', .word, true)]

/-- The assertions that are written by one character. -/
def assertionLetters : List (Char × AssertionKind) :=
  [('A', .startOfText), ('z', .endOfText), ('B', .noWordBoundary), ('<', .wordStart),
   ('>', .wordEnd)]

/-- The assertions on words that are written by a name in braces. -/
def boundaryNames : List (String × AssertionKind) :=
  [("start", .wordStart), ("end", .wordEnd), ("start-half", .wordStartHalf),
   ("end-half", .wordEndHalf)]

/-- The number of digits that each letter for code points takes without braces. -/
def codePointLetters : List (Char × Nat) :=
  [('x', 2), ('u', 4), ('U', 8)]

/-! ### Code points -/

/-- Reads a given number of hexadecimal digits. -/
def readDigits : Nat → Reading (List Char)
  | 0 => return []
  | count + 1 => do
    match ← peek with
    | none => failHere .escapeAtEnd
    | some c =>
      if (Text.hexDigit? c).isNone then failAtNext .noHexDigit
      stepOn
      return c :: (← readDigits count)

/-- The character with a code point, or the fault that there is none. -/
def characterOf (digits : List Char) (start stop : Position) : Reading Char :=
  match Text.codePoint? digits with
  | some c => return c
  | none => fail .noCharacter start stop

/-- Reads a code point in braces. -/
def readBracedDigits (start : Position) : Reading Literal := do
  let brace ← here
  let first ← behindNext
  stepOn
  let digits ← takeOn fun c => (Text.hexDigit? c).isSome
  match ← peek with
  | none => fail .escapeAtEnd brace (← here)
  | some '\x7d' =>
    let last ← here
    stepOn
    if digits.isEmpty then fail .noCodePoint brace (← here)
    return ⟨⟨start, ← here⟩, ← characterOf digits first last, false⟩
  | some _ => failAtNext .noHexDigit

/-- Reads a character that is written by its code point. -/
def readCodePoint (start : Position) (letter : Char) (count : Nat) : Reading Literal := do
  stepOn
  match ← peek with
  | none => failHere .escapeAtEnd
  | some '\x7b' => readBracedDigits start
  | some _ =>
    let first ← here
    let digits ← readDigits count
    let c ← characterOf digits first (← here)
    return ⟨⟨start, ← here⟩, c, letter == 'x'⟩

/-! ### Properties -/

/-- The name and the value of a property. They are put apart by an exclamation mark and an equals
    sign, or else by a colon, or else by an equals sign. -/
def propertyParts (text : String) : String × Option String :=
  let cut (sign : String) : Option (String × Option String) :=
    match text.splitOn sign with
    | name :: first :: rest => some (name, some (String.intercalate sign (first :: rest)))
    | _ => none
  (cut "!=" <|> cut ":" <|> cut "=").getD (text, none)

/-- Reads a property, by one letter or by a name in braces. -/
def readProperty (start : Position) : Reading Expression := do
  stepOn
  match ← peek with
  | none => failHere .escapeAtEnd
  | some '\x7b' =>
    stepOn
    let text ← takeOn (· != '\x7d')
    if (← peek).isNone then failHere .escapeAtEnd
    step
    let (name, value) := propertyParts (String.ofList text)
    return .property ⟨start, ← here⟩ name value
  | some '\\' => failAtNext .badProperty
  | some c =>
    stepOn
    return .property ⟨start, ← here⟩ (String.singleton c) none

/-! ### Assertions -/

/-- Reads the name in braces that may follow a word boundary. Braces that do not begin with a letter
    or a hyphen are left to be read as a repetition. -/
def readBoundaryName (start : Position) : Reading (Option AssertionKind) := do
  let isOfName (c : Char) : Bool := c.isAlpha || c == '-'
  let before ← get
  let brace ← here
  stepOn
  match ← peek with
  | none => fail .boundaryAtEnd start (← here)
  | some c =>
    if !isOfName c then
      set before
      return none
    let first ← here
    let name ← takeOn isOfName
    if (← peek) != some '\x7d' then fail .unclosedBoundary brace (← here)
    let last ← here
    step
    match boundaryNames.lookup (String.ofList name) with
    | some kind => return some kind
    | none => fail .unknownBoundary first last

/-- Reads on behind the letter of a word boundary. -/
def readBoundary (start : Position) : Reading Expression := do
  let plain ← here
  if (← peek) == some '\x7b' then
    match ← readBoundaryName start with
    | some kind => return .assertion ⟨start, ← here⟩ kind
    | none => return .assertion ⟨start, plain⟩ .wordBoundary
  else return .assertion ⟨start, plain⟩ .wordBoundary

/-! ### All escapes -/

/-- Reads what a backslash begins. -/
def readEscape : Reading Expression := do
  let start ← here
  step
  match ← peek with
  | none => fail .escapeAtEnd start (← here)
  | some c =>
    if c.isDigit then fail .backReference start (← behindNext)
    if let some count := codePointLetters.lookup c then
      return .literal (← readCodePoint start c count)
    if c = 'p' ∨ c = 'P' then return ← readProperty start
    step
    let place : Stretch := ⟨start, ← here⟩
    if let some (set, isNegated) := setLetters.lookup c then
      return .shorthand place set isNegated
    if isEscapable c then return .literal ⟨place, c, false⟩
    if let some control := controlLetters.lookup c then
      return .literal ⟨place, control, false⟩
    if let some kind := assertionLetters.lookup c then return .assertion place kind
    if c = 'b' then readBoundary start
    else throw (.placed .unknownEscape place none)

end QuantumAssembler.Pattern
