import QuantumAssembler.Pattern.Reader.Escape

/-!
Module: QuantumAssembler.Pattern.Reader.Bracket
Purpose: Sets of characters in brackets. Between the brackets stand characters, ranges, sets with
  names and further brackets, and operations on sets between rows of these. What is read of the
  brackets that are still open is kept as a stack of drafts.
Main exports: ClassDraft, readBrackets
-/

namespace QuantumAssembler.Pattern

open Reading

/-- The place of a part of a set. -/
def ClassItem.place : ClassItem → Stretch
  | literal l => l.place
  | range place _ _ | named place _ _ | shorthand place _ _ | property place _ _
  | bracketed place _ _ | union place _ => place

/-- The place of what stands in brackets. -/
def ClassSet.place : ClassSet → Stretch
  | item i => i.place
  | combined place _ _ _ => place

/-- Brackets that are still open. -/
structure ClassDraft where
  /-- The place of the opening bracket and of what was read with it. -/
  opening : Stretch
  isNegated : Bool
  /-- What stands in front of the last operation, and this operation. -/
  left : Option (ClassSet × SetOperation)
  /-- Where the row of parts starts that is being read. -/
  start : Position
  /-- The parts of this row, the last one first. -/
  items : List ClassItem

namespace ClassDraft

/-- Adds a part to the row. -/
def push (d : ClassDraft) (i : ClassItem) : ClassDraft :=
  { d with items := i :: d.items }

/-- The row of parts as one part. -/
def row (d : ClassDraft) : ClassItem :=
  match d.items.reverse, d.items with
  | [i], _ => i
  | first :: rest, last :: _ => .union ⟨first.place.start, last.place.stop⟩ (first :: rest)
  | _, _ => .union ⟨d.start, d.start⟩ []

/-- What was read in the brackets, up to here. -/
def set (d : ClassDraft) : ClassSet :=
  let right := ClassSet.item d.row
  match d.left with
  | none => right
  | some (left, op) => .combined ⟨left.place.start, right.place.stop⟩ op left right

/-- Goes on behind an operation. -/
def operate (d : ClassDraft) (op : SetOperation) (start : Position) : ClassDraft :=
  { d with left := some (d.set, op), start, items := [] }

end ClassDraft

/-- Ends the reading because the innermost open bracket is not closed. -/
def failUnclosed {α : Type} (opening : Stretch) : Reading α :=
  fail .unclosedClass opening.start opening.stop

/-- Reads the hyphens that stand first in brackets; they stand for themselves. -/
def readHyphens (bracket : Position) : Nat → Reading (List ClassItem)
  | 0 => return []
  | count + 1 => do
    if (← peek) != some '-' then return []
    let place : Stretch := ⟨← here, ← behindNext⟩
    stepOn
    if (← peek).isNone then fail .unclosedClass bracket bracket
    return .literal ⟨place, '-', false⟩ :: (← readHyphens bracket count)

/-- Reads an opening bracket, a sign of negation, and the hyphens or the closing bracket that stand
    for themselves because they come first. -/
def openBracket : Reading ClassDraft := do
  let bracket ← here
  stepOn
  if (← peek).isNone then fail .unclosedClass bracket (← here)
  let isNegated := (← peek) == some '^'
  if isNegated then
    stepOn
    if (← peek).isNone then fail .unclosedClass bracket (← here)
  let start ← here
  let hyphens ← readHyphens bracket (← remaining)
  if hyphens.isEmpty && (← peek) == some ']' then
    let place : Stretch := ⟨start, ← behindNext⟩
    stepOn
    if (← peek).isNone then fail .unclosedClass bracket (← here)
    return ⟨⟨bracket, ← here⟩, isNegated, none, start, [.literal ⟨place, ']', false⟩]⟩
  return ⟨⟨bracket, ← here⟩, isNegated, none, start, hyphens.reverse⟩

/-- Reads a set with a name, if one stands here; its name is between colons and brackets. -/
def readNamed? : Reading (Option ClassItem) := do
  let before ← get
  let start ← here
  step
  let isNamed ← stepOver ":"
  let isNegated ← if isNamed then stepOver "^" else pure false
  let name ← take (· != ':')
  let isClosed ← stepOver ":]"
  match NamedSet.names.lookup (String.ofList name) with
  | some set =>
    if isNamed && isClosed then return some (.named ⟨start, ← here⟩ set isNegated)
  | none => pure ()
  set before
  return none

/-- Reads one character of a set, or what stands for one. -/
def readMember : Reading Expression := do
  match ← peek with
  | some '\\' => readEscape
  | some c =>
    let place : Stretch := ⟨← here, ← behindNext⟩
    step
    return .literal ⟨place, c, false⟩
  | none => return .empty

/-- The literal that a member of a set is, where a bound of a range is asked for. -/
def boundOf (e : Expression) : Reading Literal :=
  match e with
  | .literal l => return l
  | .assertion place _ | .shorthand place _ _ | .property place _ _ =>
    throw (.placed .rangeOfSets place none)
  | _ => failHere .rangeOfSets

/-- A member of a set as a part of it. -/
def partOf (e : Expression) : Reading ClassItem :=
  match e with
  | .literal l => return .literal l
  | .shorthand place set isNegated => return .shorthand place set isNegated
  | .property place name value => return .property place name value
  | .assertion place _ => throw (.placed .noClassEscape place none)
  | _ => failHere .noClassEscape

/-- Where a member of a set stops. -/
def stopOf (e : Expression) (stop : Position) : Position :=
  match e with
  | .literal l => l.place.stop
  | .assertion place _ | .shorthand place _ _ | .property place _ _ => place.stop
  | _ => stop

/-- Reads a member of a set, or a range. A hyphen in front of a closing bracket or of another hyphen
    makes no range. -/
def readPart (opening : Stretch) : Reading ClassItem := do
  let first ← readMember
  skipBlanks
  match ← peek with
  | none => failUnclosed opening
  | some c =>
    let next ← peekBehindBlanks
    if c != '-' || next == some ']' || next == some '-' then partOf first
    else
      stepOn
      if (← peek).isNone then failUnclosed opening
      let last ← readMember
      let first ← boundOf first
      let stop := stopOf last (← here)
      let last ← boundOf last
      let place : Stretch := ⟨first.place.start, stop⟩
      if last.char < first.char then throw (.placed .rangeReversed place none)
      return .range place first last

/-- The operation on sets that comes next, if one does. -/
def operation? : Reading (Option SetOperation) := do
  match ← peek, ← peekSecond with
  | some '&', some '&' => return some .intersection
  | some '-', some '-' => return some .difference
  | some '~', some '~' => return some .symmetricDifference
  | _, _ => return none

/-- Reads on in brackets: the innermost draft and the drafts around it. Every round reads at least
    one character, so there are no more rounds than characters. -/
def readInBrackets (d : ClassDraft) (around : List ClassDraft) : Nat → Reading Expression
  | 0 => failUnclosed d.opening
  | rounds + 1 => do
    skipBlanks
    match ← peek with
    | none => failUnclosed d.opening
    | some '[' =>
      match ← readNamed? with
      | some i => readInBrackets (d.push i) around rounds
      | none => readInBrackets (← openBracket) (d :: around) rounds
    | some ']' =>
      step
      let place : Stretch := ⟨d.opening.start, ← here⟩
      match around with
      | [] => return .bracketed place d.isNegated d.set
      | outer :: others =>
        readInBrackets (outer.push (.bracketed place d.isNegated d.set)) others rounds
    | some _ =>
      match ← operation? with
      | some op =>
        step
        step
        readInBrackets (d.operate op (← here)) around rounds
      | none => readInBrackets (d.push (← readPart d.opening)) around rounds

/-- Reads a set in brackets. -/
def readBrackets : Reading Expression := do
  let rounds := (← remaining) + 1
  readInBrackets (← openBracket) [] rounds

end QuantumAssembler.Pattern
