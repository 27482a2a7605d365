/-!
Module: QuantumAssembler.Text.ControlSequence
Purpose: Text as it is shown where control sequences have no effect. A control sequence begins
  with the escape character; what follows it decides how far the sequence reaches. Sequences are
  left out, and so are all other control characters that are no white space.
Main exports: SequenceState, SequenceState.step, shownFrom, withoutControls
-/

namespace QuantumAssembler.Text

/-- Where the reader of a text stands with respect to control sequences. -/
inductive SequenceState where
  /-- Outside of all sequences. -/
  | outside
  /-- Behind an escape character. -/
  | escape
  /-- In a short sequence, in front of its last character. -/
  | short
  /-- In a sequence with parameters, in front of its last character. -/
  | parameters
  /-- In the head of a device string. -/
  | head
  /-- In a string that a terminator ends. -/
  | string
  /-- In a command to the terminal's host, which a bell ends as well. -/
  | command
deriving DecidableEq, Repr

/-- Whether a control character is white space. -/
def isBlankControl (c : Char) : Bool :=
  c == '\t' || c == '\n' || c == '\x0c' || c == '\r'

/-- Whether a character is a control character of seven bits. -/
def isControl (c : Char) : Bool :=
  c.toNat < 0x20 || c.toNat == 0x7F

/-- Whether a character's code point is between two bounds, the bounds included. -/
def isWithin (first last : Nat) (c : Char) : Bool :=
  first ≤ c.toNat && c.toNat ≤ last

/-- The terminator of strings as one byte. It ends a string wherever the byte stands, be it in the
    middle of a character. -/
def stringTerminator : UInt8 := 0x9C

namespace SequenceState

/-- Where the reader stands behind the character that follows an escape character. -/
def behindEscape (c : Char) : SequenceState :=
  if c = '[' then parameters
  else if c = ']' then command
  else if c = 'P' then head
  else if c = 'X' ∨ c = '^' ∨ c = '_' then string
  else if isWithin 0x20 0x2F c then short
  else if isWithin 0x30 0x7E c then outside
  else escape

/-- Where the reader stands behind a character inside a sequence, if neither an escape character nor
    a cancellation interferes. -/
def within (s : SequenceState) (c : Char) : SequenceState :=
  match s with
  | outside => outside
  | escape => behindEscape c
  | short => if isWithin 0x30 0x7E c then outside else short
  | parameters => if isWithin 0x40 0x7E c then outside else parameters
  | head => if isWithin 0x40 0x7E c then string else head
  | string => if (String.utf8EncodeChar c).contains stringTerminator then outside else string
  | command => if c = '\x07' then outside else command

/-- Reads one character: where the reader stands behind it, and whether the character is shown.
    White space inside a sequence that is no string breaks the sequence off. -/
def step (s : SequenceState) (c : Char) : SequenceState × Bool :=
  if c = '\x1b' then (escape, false)
  else if c = '\x18' ∨ c = '\x1a' then (outside, false)
  else match s with
    | outside => (outside, isBlankControl c || !isControl c)
    | escape | short | parameters =>
      if isBlankControl c then (outside, true) else (s.within c, false)
    | _ => (s.within c, false)

end SequenceState

/-- What is shown of a text from a given state on. -/
def shownFrom (s : SequenceState) : List Char → List Char
  | [] => []
  | c :: rest =>
    let (next, isShown) := s.step c
    if isShown then c :: shownFrom next rest else shownFrom next rest

/-- A text without control sequences and control characters. -/
def withoutControls (text : String) : String :=
  String.ofList (shownFrom .outside text.toList)

end QuantumAssembler.Text
