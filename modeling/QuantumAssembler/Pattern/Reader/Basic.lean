import QuantumAssembler.Pattern.Fault
import QuantumAssembler.Text.WhiteSpace

/-!
Module: QuantumAssembler.Pattern.Reader.Basic
Purpose: The means by which patterns are read: what is still to be read and where it stands, single
  characters, rows of characters, and blanks with comments, which mean nothing in a verbose pattern.
Main exports: Reader, Reading, peek, here, step, skipBlanks, stepOn, take, takeOn, fail
-/

namespace QuantumAssembler.Pattern

/-- What the reading of a pattern goes by. -/
structure Reader where
  /-- The place of the first character that is still to be read. -/
  place : Position
  rest : List Char
  /-- Whether blanks and comments mean nothing. -/
  isVerbose : Bool
  /-- The names of groups so far, with their places. -/
  names : List (String × Stretch)

/-- A reading, which may end in a fault. -/
abbrev Reading := StateT Reader (Except Fault)

/-- What is left when the next character was read. -/
def Reader.step (r : Reader) : Reader :=
  match r.rest with
  | [] => r
  | c :: rest => { r with place := r.place.next c, rest }

/-- What is left when a row of characters was read, which is known to stand in front. -/
def Reader.pass (r : Reader) (cs : List Char) : Reader :=
  { r with place := r.place.after cs, rest := r.rest.drop cs.length }

/-- The blanks and comments in front of a text. A comment reaches to the end of its line. -/
def blanksBefore (inComment : Bool) : List Char → List Char
  | [] => []
  | c :: rest =>
    if inComment then c :: blanksBefore (c != '\n') rest
    else if Text.isWhiteSpace c then c :: blanksBefore false rest
    else if c = '#' then c :: blanksBefore true rest
    else []

namespace Reading

/-- The next character, which stays to be read. -/
def peek : Reading (Option Char) := do
  return (← get).rest.head?

/-- The place of the next character. -/
def here : Reading Position := do
  return (← get).place

/-- The number of characters that are still to be read. -/
def remaining : Reading Nat := do
  return (← get).rest.length

/-- Reads one character. -/
def step : Reading Unit :=
  modify Reader.step

/-- The place behind the next character. -/
def behindNext : Reading Position := do
  return (← get).step.place

/-- Reads blanks and comments, if they mean nothing. -/
def skipBlanks : Reading Unit :=
  modify fun r => if r.isVerbose then r.pass (blanksBefore false r.rest) else r

/-- Reads one character, and blanks and comments behind it if they mean nothing. -/
def stepOn : Reading Unit := do
  step
  skipBlanks

/-- The character behind the next one. -/
def peekSecond : Reading (Option Char) := do
  return (← get).rest[1]?

/-- The character behind the next one and behind blanks, if those mean nothing. Of a comment only
    the blanks at its front are passed over, and where nothing follows, blanks count. -/
def peekBehindBlanks : Reading (Option Char) := do
  let r ← get
  let rest := r.rest.drop 1
  if r.isVerbose then
    let shown := match rest.dropWhile Text.isWhiteSpace with
      | '#' :: comment => comment.dropWhile Text.isWhiteSpace
      | shown => shown
    return shown.head? <|> rest.head?
  else return rest.head?

/-- Reads a text if it comes next. -/
def stepOver (text : String) : Reading Bool := do
  let r ← get
  if text.toList.isPrefixOf r.rest then
    set (r.pass text.toList)
    return true
  else return false

/-- Reads characters as long as they pass a test. -/
def take (test : Char → Bool) : Reading (List Char) := do
  let r ← get
  let found := r.rest.takeWhile test
  set (r.pass found)
  return found

/-- Reads at most so many characters as long as they pass a test, with blanks and comments behind
    each if those mean nothing. -/
def takeOnUpTo (test : Char → Bool) : Nat → Reading (List Char)
  | 0 => return []
  | count + 1 => do
    match ← peek with
    | some c =>
      if test c then
        stepOn
        return c :: (← takeOnUpTo test count)
      else return []
    | none => return []

/-- Reads characters as long as they pass a test, with blanks and comments behind each if those mean
    nothing. -/
def takeOn (test : Char → Bool) : Reading (List Char) := do
  takeOnUpTo test (← remaining)

/-- Ends the reading because a stretch is at fault. -/
def fail {α : Type} (cause : Cause) (start stop : Position) : Reading α :=
  throw (.placed cause ⟨start, stop⟩ none)

/-- Ends the reading because the next character is at fault. -/
def failAtNext {α : Type} (cause : Cause) : Reading α := do
  fail cause (← here) (← behindNext)

/-- Ends the reading because something is missing at this place. -/
def failHere {α : Type} (cause : Cause) : Reading α := do
  fail cause (← here) (← here)

end Reading

end QuantumAssembler.Pattern
