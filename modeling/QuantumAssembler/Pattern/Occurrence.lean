import QuantumAssembler.Pattern.Basic

/-!
Module: QuantumAssembler.Pattern.Occurrence
Purpose: Whether a pattern occurs in a text. The text is read once, from its front to its end, and
  the pattern carries marks: a set of characters is marked if it has matched the character that was
  read last. Each further character moves the marks on. `advance` moves them, and `ends` says
  whether a match ends where the text stands.
Main exports: Progress, Progress.Ends, Progress.ends, Pattern.begin, Progress.advance,
  Pattern.occursIn
-/

namespace QuantumAssembler.Pattern

/-- A pattern with marks at the sets that have matched the character read last. -/
inductive Progress where
  /-- A pattern without marks. -/
  | idle (p : Pattern)
  /-- A set with a mark. -/
  | marked (set : CharSet)
  | sequence (first second : Progress)
  | either (first second : Progress)
  /-- Any number of rounds. -/
  | rounds (round : Progress)
deriving DecidableEq, Repr

namespace Progress

/-- Whether there are no marks. -/
def isIdle : Progress → Bool
  | idle _ => true
  | _ => false

/-- Two patterns, one after the other. -/
def inSequence : Progress → Progress → Progress
  | idle p, idle q => idle (.sequence p q)
  | a, b => sequence a b

/-- Two patterns, one of which is to match. -/
def inChoice : Progress → Progress → Progress
  | idle p, idle q => idle (.either p q)
  | a, b => either a b

/-- Any number of rounds. -/
def inRounds : Progress → Progress
  | idle p => idle (.repeated p 0 none)
  | a => rounds a

/-- A pattern so many times in front of another. -/
def inFront (round : Progress) : Nat → Progress → Progress
  | 0, rest => rest
  | count + 1, rest => inFront round count (inSequence round rest)

/-! ### Ends -/

/-- What can be said of a pattern at the place behind its marks. -/
structure Ends where
  /-- The pattern matches the empty text at this place. -/
  isPassable : Bool
  /-- A match that is marked ends at this place. -/
  isComplete : Bool
deriving DecidableEq, Repr

/-- The ends of two patterns, one after the other. -/
def Ends.inSequence (a b : Ends) : Ends :=
  ⟨a.isPassable && b.isPassable, a.isComplete && b.isPassable || b.isComplete⟩

/-- The ends of two patterns, one of which is to match. -/
def Ends.inChoice (a b : Ends) : Ends :=
  ⟨a.isPassable || b.isPassable, a.isComplete || b.isComplete⟩

/-- What can be said of a pattern at the place between two neighbours, the first of which was read
    last. -/
def ends (before next : Option Char) : Progress → Ends
  | idle p => ⟨p.matchesNothing before next, false⟩
  | marked _ => ⟨false, true⟩
  | sequence a b => (a.ends before next).inSequence (b.ends before next)
  | either a b => (a.ends before next).inChoice (b.ends before next)
  | rounds a => ⟨true, (a.ends before next).isComplete⟩

end Progress

open Progress

/-! ### Reading a character -/

/-- A repetition of which the first round has begun. Rounds that match nothing may be passed over;
    where all that are demanded can be, a match may begin in each of them. -/
def beginRounds (p : Pattern) (least : Nat) (most : Option Nat) (round : Progress)
    (isPassable : Bool) : Progress :=
  if round.isIdle || most == some 0 then .idle (.repeated p least most)
  else match if p.isPassable then 0 else least with
    | 0 =>
      match most with
      | none => round.inRounds
      | some most =>
        (Progress.idle .empty).inChoice (round.inSequence (.idle (.repeated p 0 (some (most - 1)))))
    | others + 1 =>
      if isPassable then
        round.inFront (others + 1) (.idle (.repeated p 0 (most.map (· - (others + 1)))))
      else round.inSequence (.idle (.repeated p others (most.map (· - 1))))

/-- The marks that a character leaves in a pattern of which it is the first one, and whether the
    pattern matches the empty text in front of it. -/
def begin (before : Option Char) (c : Char) : Pattern → Progress × Bool
  | empty => (.idle empty, true)
  | oneOf set => (if set.contains c then .marked set else .idle (oneOf set), false)
  | assertion a => (.idle (assertion a), a.holds before (some c))
  | sequence p q =>
    let (first, isPassable) := p.begin before c
    if isPassable then
      let (second, isPassable) := q.begin before c
      (first.inSequence second, isPassable)
    else (first.inSequence (.idle q), false)
  | either p q =>
    let (first, isFirstPassable) := p.begin before c
    let (second, isSecondPassable) := q.begin before c
    (first.inChoice second, isFirstPassable || isSecondPassable)
  | repeated p least most =>
    let (round, isPassable) := p.begin before c
    (beginRounds p least most round isPassable, least == 0 || isPassable)

theorem begin_snd (before : Option Char) (c : Char) (p : Pattern) :
    (p.begin before c).2 = p.matchesNothing before (some c) := by
  induction p with
  | empty => rfl
  | oneOf set => rfl
  | assertion a => rfl
  | sequence p q ihp ihq =>
    rw [begin, matchesNothing, ← ihp, ← ihq]
    cases h : (p.begin before c).2 <;> simp [h]
  | either p q ihp ihq => rw [begin, matchesNothing, ← ihp, ← ihq]
  | repeated p least most ih => rw [begin, matchesNothing, ← ih]

/-- Moves the marks on by one character, and says what the ends in front of it were. A match may
    begin with the character if the pattern is reached. -/
def Progress.advance (isReached : Bool) (before : Option Char) (c : Char) :
    Progress → Progress × Ends
  | idle p =>
    if isReached then
      let (begun, isPassable) := p.begin before c
      (begun, ⟨isPassable, false⟩)
    else (idle p, ⟨p.matchesNothing before (some c), false⟩)
  | marked set =>
    (if isReached && set.contains c then marked set else idle (oneOf set), ⟨false, true⟩)
  | sequence a b =>
    let (first, x) := a.advance isReached before c
    let (second, y) := b.advance (isReached && x.isPassable || x.isComplete) before c
    (first.inSequence second, x.inSequence y)
  | either a b =>
    let (first, x) := a.advance isReached before c
    let (second, y) := b.advance isReached before c
    (first.inChoice second, x.inChoice y)
  | rounds a =>
    let isComplete := (a.ends before (some c)).isComplete
    let (round, _) := a.advance (isReached || isComplete) before c
    (round.inRounds, ⟨true, isComplete⟩)

/-- What is said of the ends does not depend on how the marks move. -/
theorem Progress.advance_snd (isReached : Bool) (before : Option Char) (c : Char) (p : Progress) :
    (p.advance isReached before c).2 = p.ends before (some c) := by
  induction p generalizing isReached with
  | idle p => cases isReached <;> simp [advance, ends, begin_snd]
  | marked set => rfl
  | sequence a b iha ihb => simp [advance, ends, iha, ihb]
  | either a b iha ihb => simp [advance, ends, iha, ihb]
  | rounds a _ => rfl

/-! ### Whole texts -/

/-- Whether a pattern occurs in the rest of a text, or a match that is marked ends there. -/
def Progress.occursFrom (before : Option Char) (p : Progress) : List Char → Bool
  | [] => let here := p.ends before none; here.isPassable || here.isComplete
  | c :: rest =>
    let (next, here) := p.advance true before c
    here.isPassable || here.isComplete || next.occursFrom (some c) rest

/-- Whether a pattern occurs anywhere in a text. -/
def occursIn (p : Pattern) (text : String) : Bool :=
  (Progress.idle p).occursFrom none text.toList

end QuantumAssembler.Pattern
