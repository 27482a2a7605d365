import QuantumAssembler.Pattern.CharSet

/-!
Module: QuantumAssembler.Pattern.Basic
Purpose: Patterns of text, that is, regular expressions with assertions about the place in the
  text. `matchesNothing` says whether a pattern matches the empty text at a place, and `size` how
  much an automaton for it takes.
Main exports: Assertion, Assertion.holds, Pattern, Pattern.matchesNothing, Pattern.size
-/

namespace QuantumAssembler

namespace Pattern

/-- What a pattern may demand of a place in a text. Words are rows of letters, digits and low lines,
    of seven bits all of them. -/
inductive Assertion where
  | startOfText
  | endOfText
  /-- Behind a line feed, or at the start of the text. -/
  | startOfLine
  /-- In front of a line feed, or at the end of the text. -/
  | endOfLine
  /-- As `startOfLine`, where carriage returns end lines as well, alone or before a line feed. -/
  | startOfLineReturn
  /-- As `endOfLine`, where carriage returns end lines as well, alone or before a line feed. -/
  | endOfLineReturn
  | wordBoundary
  | noWordBoundary
  | wordStart
  | wordEnd
  /-- No word reaches this place from the left. -/
  | wordStartHalf
  /-- No word reaches on to the right of this place. -/
  | wordEndHalf
deriving DecidableEq, Repr

/-- Whether a neighbour of a place is a part of a word. -/
def isInWord (neighbour : Option Char) : Bool :=
  neighbour.any NamedSet.word.set.contains

namespace Assertion

/-- Whether an assertion holds at the place between two neighbours; a neighbour is missing at an end
    of the text. -/
def holds (a : Assertion) (before next : Option Char) : Bool :=
  match a with
  | startOfText => before.isNone
  | endOfText => next.isNone
  | startOfLine => before.isNone || before == some '\n'
  | endOfLine => next.isNone || next == some '\n'
  | startOfLineReturn =>
    before.isNone || before == some '\n' || (before == some '\r' && next != some '\n')
  | endOfLineReturn =>
    next.isNone || next == some '\r' || (next == some '\n' && before != some '\r')
  | wordBoundary => isInWord before != isInWord next
  | noWordBoundary => isInWord before == isInWord next
  | wordStart => !isInWord before && isInWord next
  | wordEnd => isInWord before && !isInWord next
  | wordStartHalf => !isInWord before
  | wordEndHalf => !isInWord next

end Assertion

end Pattern

open Pattern in
/-- A pattern of text. -/
inductive Pattern where
  /-- Matches the empty text only. -/
  | empty
  /-- Matches each of the characters in a set. -/
  | oneOf (set : CharSet)
  /-- Matches the empty text where an assertion holds. -/
  | assertion (a : Assertion)
  | sequence (first second : Pattern)
  | either (first second : Pattern)
  /-- Matches a pattern at least and, if there is a bound, at most so many times in a row. -/
  | repeated (p : Pattern) (least : Nat) (most : Option Nat)
deriving DecidableEq, Repr

namespace Pattern

/-- Whether a pattern matches the empty text at the place between two neighbours. -/
def matchesNothing (before next : Option Char) : Pattern → Bool
  | empty => true
  | oneOf _ => false
  | assertion a => a.holds before next
  | sequence p q => p.matchesNothing before next && q.matchesNothing before next
  | either p q => p.matchesNothing before next || q.matchesNothing before next
  | repeated p least _ => least == 0 || p.matchesNothing before next

/-- Whether a pattern matches the empty text at every place. -/
def isPassable : Pattern → Bool
  | empty => true
  | oneOf _ | assertion _ => false
  | sequence p q => p.isPassable && q.isPassable
  | either p q => p.isPassable || q.isPassable
  | repeated p least _ => least == 0 || p.isPassable

/-- A pattern with another one in front of it. -/
def behind (second : Pattern) : Pattern → Pattern
  | empty => second
  | first => sequence first second

/-! ### Size -/

/-- The number of runs of characters of seven bits in a set. -/
def runs (set : CharSet) : Nat :=
  let held := (List.range 0x80).map fun n => set.contains (Char.ofNat n)
  ((false :: held).zip held).countP fun (before, here) => !before && here

/-- The bytes that one state of an automaton takes. -/
def stateSize : Nat := 32

/-- The bytes that one way out of a state takes. -/
def branchSize : Nat := 4

/-- The bytes that one run of characters takes. -/
def runSize : Nat := 8

/-- The states that it takes to tell the characters of more than seven bits by their bytes. -/
def wideStates : Nat := 26

/-- The bytes that the automaton of a set of characters takes. -/
def setSize (set : CharSet) : Nat :=
  match set with
  | .span first last =>
    if first = last then stateSize * first.utf8Size
    else if last.toNat < 0x80 then 2 * stateSize + runSize
    else 2 * stateSize + wideStates * stateSize + 9 * branchSize
  | set =>
    if set.contains '\x80' || set.contains '\uffff' || set.contains (Char.ofNat 0x10FFFF) then
      2 * stateSize + runs set * (stateSize + branchSize) + wideStates * stateSize + 8 * branchSize
    else 2 * stateSize + runs set * runSize

/-- The bytes that the automaton of a pattern takes. A repetition takes its pattern as often as it
    can be told apart how often it was matched. -/
def size : Pattern → Nat
  | empty => stateSize
  | oneOf set => setSize set
  | assertion _ => stateSize
  | sequence p q => p.size + q.size
  | either p q => p.size + q.size + stateSize + 2 * branchSize
  | repeated p least (some most) =>
    least * p.size + (most - least) * (p.size + stateSize + 2 * branchSize)
  | repeated p least none => max least 1 * p.size + stateSize + 2 * branchSize

end Pattern

end QuantumAssembler
