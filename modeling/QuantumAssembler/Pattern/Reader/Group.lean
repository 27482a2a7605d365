import QuantumAssembler.Pattern.Reader.Bracket
import QuantumAssembler.Unicode.Alphanumeric

/-!
Module: QuantumAssembler.Pattern.Reader.Group
Purpose: Groups, flags and repetitions, and the reading of a whole pattern. What is read of the
  groups that are still open is kept as a stack of drafts.
Main exports: Draft, readExpression
-/

namespace QuantumAssembler.Pattern

open Reading

/-! ### Drafts -/

/-- The expression that is being read in a group, or outside of all groups. -/
structure Draft where
  /-- Where the first branch starts. -/
  firstStart : Position
  /-- The finished branches, the last one first. -/
  branches : List Expression
  /-- Where the branch starts that is being read. -/
  start : Position
  /-- The parts of this branch, the last one first. -/
  parts : List Expression

namespace Draft

/-- The draft of an expression of which nothing was read. -/
def fresh (start : Position) : Draft := ⟨start, [], start, []⟩

/-- Adds a part to the branch. -/
def push (d : Draft) (e : Expression) : Draft :=
  { d with parts := e :: d.parts }

/-- The branch that was read up to a place. -/
def branch (d : Draft) (stop : Position) : Expression :=
  match d.parts.reverse with
  | [] => .empty
  | [e] => e
  | es => .concatenation ⟨d.start, stop⟩ es

/-- Goes on with the next branch behind a bar. -/
def split (d : Draft) (bar next : Position) : Draft :=
  { d with branches := d.branch bar :: d.branches, start := next, parts := [] }

/-- The expression that was read up to a place. -/
def finish (d : Draft) (stop : Position) : Expression :=
  match d.branches with
  | [] => d.branch stop
  | es => .alternation ⟨d.firstStart, stop⟩ (es.reverse ++ [d.branch stop])

end Draft

/-- A group that is still open. -/
structure OpenGroup where
  opening : Stretch
  settings : List (Flag × Bool)
  /-- Whether blanks mean nothing around the group. -/
  wasVerbose : Bool
  /-- The draft around the group. -/
  around : Draft

/-! ### Flags -/

/-- Flags that were read, with their places. The sign of negation is no flag. -/
structure FlagDraft where
  flags : List (Flag × Stretch)
  settings : List (Flag × Bool)
  /-- The sign of negation. -/
  negation : Option Stretch
  /-- The sign of negation, if it was read last. -/
  dangling : Option Stretch

/-- Reads flags up to a colon or a closing parenthesis, neither of which is read. -/
def readFlags (d : FlagDraft) : Nat → Reading (List (Flag × Bool))
  | 0 => failHere .flagsAtEnd
  | rounds + 1 => do
    let place : Stretch := ⟨← here, ← behindNext⟩
    let next ← peek
    if next == some ':' || next == some ')' then
      match d.dangling with
      | some sign => throw (.placed .danglingNegation sign none)
      | none => return d.settings
    else
      let d ← match next with
        | none => failHere .flagsAtEnd
        | some '-' =>
          if d.negation.isSome then throw (.placed .repeatedNegation place d.negation)
          pure { d with negation := some place, dangling := some place }
        | some c =>
          match Flag.letters.lookup c with
          | none => throw (.placed .unknownFlag place none)
          | some flag =>
            if let some earlier := d.flags.lookup flag then
              throw (.placed .duplicateFlag place (some earlier))
            pure { d with
              flags := d.flags ++ [(flag, place)]
              settings := d.settings ++ [(flag, d.negation.isNone)]
              dangling := none }
      step
      if (← peek).isNone then failHere .flagsAtEnd
      readFlags d rounds

/-! ### Groups -/

/-- Whether a character may stand in the name of a group. -/
def isOfGroupName (isFirst : Bool) (c : Char) : Bool :=
  c == '_' || Unicode.isAlphabetic c ||
    (!isFirst && (c == '.' || c == '[' || c == ']' || Unicode.isNumeric c))

/-- Reads the name of a group and the angle bracket that closes it. -/
def readName : Reading Unit := do
  if (← peek).isNone then failHere .nameAtEnd
  let start ← here
  let name ← take (· != '>')
  let stop ← here
  let good := (name.zipIdx.takeWhile fun (c, i) => isOfGroupName (i == 0) c).map Prod.fst
  if let some c := name[good.length]? then
    let bad := start.after good
    fail .badName bad (bad.next c)
  if (← peek).isNone then failHere .nameAtEnd
  step
  if name.isEmpty then fail .emptyName start start
  let key := String.ofList name
  let place : Stretch := ⟨start, stop⟩
  if let some earlier := (← get).names.lookup key then
    throw (.placed .duplicateName place (some earlier))
  modify fun r => { r with names := (key, place) :: r.names }

/-- What a parenthesis opens: flags for the rest of the group around it, or a group. -/
inductive Opening where
  | flags (settings : List (Flag × Bool))
  | group (opening : Stretch) (settings : List (Flag × Bool))

/-- The beginnings of groups that look at what is around them. -/
def lookAroundSigns : List String := ["?=", "?!", "?<=", "?<!"]

/-- Reads the first of some texts that comes next. -/
def stepOverAny : List String → Reading Bool
  | [] => return false
  | text :: rest => do
    if ← stepOver text then return true
    stepOverAny rest

/-- Reads an opening parenthesis and what belongs to it. -/
def readOpening : Reading Opening := do
  let start ← here
  let opening : Stretch := ⟨start, ← behindNext⟩
  stepOn
  if ← stepOverAny lookAroundSigns then fail .lookAround start (← here)
  let inner ← here
  if ← stepOverAny ["?P<", "?<"] then
    readName
    return .group opening []
  else if ← stepOver "?" then
    if (← peek).isNone then fail .unclosedGroup opening.start opening.stop
    let settings ← readFlags ⟨[], [], none, none⟩ ((← remaining) + 1)
    let isGroup := (← peek) == some ':'
    step
    if isGroup then return .group opening settings
    else if settings.isEmpty then fail .nothingToRepeat inner inner
    else return .flags settings
  else return .group opening []

/-! ### Repetitions -/

/-- The largest number that counts repetitions. -/
def countLimit : Nat := 4294967295

/-- Reads a number, or finds what is wrong with it. -/
def readCount : Reading (Except Fault Nat) := do
  let _ ← take Text.isWhiteSpace
  let start ← here
  let digits ← takeOn Char.isDigit
  let stop ← here
  let _ ← takeOn Text.isWhiteSpace
  let value := digits.foldl (fun n c => 10 * n + (c.toNat - '0'.toNat)) 0
  if digits.isEmpty then return .error (.placed .noCount ⟨start, stop⟩ none)
  else if countLimit < value then return .error (.placed .decimalTooLarge ⟨start, stop⟩ none)
  else return .ok value

/-- Takes off the part that a repetition is about. Flags cannot be repeated. -/
def repeatedPart (d : Draft) : Reading (Expression × Draft) :=
  match d.parts with
  | [] | .flags _ :: _ => failHere .nothingToRepeat
  | e :: parts => return (e, { d with parts })

/-- Where an expression starts; one without extent starts at the given place. -/
def startOf (e : Expression) (start : Position) : Position :=
  match e with
  | .literal l => l.place.start
  | .dot place | .assertion place _ | .shorthand place _ _ | .property place _ _
  | .bracketed place _ _ | .repetition place _ _ _ | .group place _ _ | .alternation place _
  | .concatenation place _ => place.start
  | .empty | .flags _ => start

/-- Reads a repetition that is written by one sign, and a question mark behind it. -/
def readRepetition (d : Draft) (least : Nat) (most : Option Nat) : Reading Draft := do
  let start ← here
  let (e, d) ← repeatedPart d
  step
  let _ ← stepOver "?"
  return d.push (.repetition ⟨startOf e start, ← here⟩ least most e)

/-- Reads a repetition that is written by numbers in braces, and a question mark behind it. -/
def readCounted (d : Draft) : Reading Draft := do
  let brace ← here
  let (e, d) ← repeatedPart d
  stepOn
  if (← peek).isNone then fail .unclosedCount brace (← here)
  let first ← readCount
  let (least, most) ← match ← peek with
    | none => fail .unclosedCount brace (← here)
    | some ',' =>
      stepOn
      match ← peek with
      | none => fail .unclosedCount brace (← here)
      | some '\x7d' => pure (← first, none)
      | some _ =>
        let least ← first
        let most ← readCount
        pure (least, some (← most))
    | some _ =>
      let count ← first
      pure (count, some count)
  if (← peek) != some '\x7d' then fail .unclosedCount brace (← here)
  stepOn
  let _ ← stepOver "?"
  let stop ← here
  if most.any (· < least) then fail .countReversed brace stop
  return d.push (.repetition ⟨startOf e brace, stop⟩ least most e)

/-! ### Whole patterns -/

/-- Reads one character outside of brackets that is no bracket and repeats nothing. -/
def readSingle (c : Char) : Reading Expression := do
  if c = '\\' then readEscape
  else
    let place : Stretch := ⟨← here, ← behindNext⟩
    step
    if c = '.' then return .dot place
    else if c = '^' then return .assertion place .startOfLine
    else if c = '$' then return .assertion place .endOfLine
    else return .literal ⟨place, c, false⟩

/-- Sets whether blanks mean nothing, if flags say so. -/
def setVerbose (settings : List (Flag × Bool)) : Reading Unit :=
  match settings.lookup .verbose with
  | some isVerbose => modify fun r => { r with isVerbose }
  | none => pure ()

/-- Reads on: the innermost draft and the groups around it. Every round reads at least one
    character, so there are no more rounds than characters. -/
def readParts (d : Draft) (groups : List OpenGroup) : Nat → Reading Expression
  | 0 => return d.finish (← here)
  | rounds + 1 => do
    skipBlanks
    match ← peek with
    | none =>
      match groups with
      | [] => return d.finish (← here)
      | g :: _ => fail .unclosedGroup g.opening.start g.opening.stop
    | some '(' =>
      let wasVerbose := (← get).isVerbose
      match ← readOpening with
      | .flags settings =>
        setVerbose settings
        readParts (d.push (.flags settings)) groups rounds
      | .group opening settings =>
        setVerbose settings
        readParts (.fresh (← here)) (⟨opening, settings, wasVerbose, d⟩ :: groups) rounds
    | some ')' =>
      match groups with
      | [] => failAtNext .unopenedGroup
      | g :: others =>
        let e := d.finish (← here)
        modify fun r => { r with isVerbose := g.wasVerbose }
        step
        let place : Stretch := ⟨g.opening.start, ← here⟩
        readParts (g.around.push (.group place g.settings e)) others rounds
    | some '|' =>
      let bar ← here
      step
      readParts (d.split bar (← here)) groups rounds
    | some '[' => readParts (d.push (← readBrackets)) groups rounds
    | some '?' => readParts (← readRepetition d 0 (some 1)) groups rounds
    | some '*' => readParts (← readRepetition d 0 none) groups rounds
    | some '+' => readParts (← readRepetition d 1 none) groups rounds
    | some '\x7b' => readParts (← readCounted d) groups rounds
    | some c => readParts (d.push (← readSingle c)) groups rounds

/-- Reads a pattern. -/
def readExpression (pattern : String) : Except Fault Expression := do
  let cs := pattern.toList
  let (e, _) ← (readParts (.fresh .start) [] (cs.length + 1)).run ⟨.start, cs, false, []⟩
  match e.tooDeep? depthLimit with
  | some place => throw (.placed .tooDeep place none)
  | none => return e

end QuantumAssembler.Pattern
