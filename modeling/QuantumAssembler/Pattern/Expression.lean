import QuantumAssembler.Pattern.CharSet
import QuantumAssembler.Text.Position

/-!
Module: QuantumAssembler.Pattern.Expression
Purpose: Patterns as they are written. An expression keeps the place of each of its parts, so that
  what is wrong with a part can be pointed at, and it keeps flags where they stand. Sets of
  characters in brackets have expressions of their own.
Main exports: Stretch, Flag, Literal, BoundaryKind, ClassItem, ClassSet, Expression,
  Expression.tooDeep?
-/

namespace QuantumAssembler.Pattern

/-- A stretch of a pattern: from its first character to behind its last. -/
structure Stretch where
  start : Position
  stop : Position
deriving DecidableEq, Repr

/-- What flags can turn on and off. -/
inductive Flag where
  | caseless
  /-- Assertions about the text hold for each line. -/
  | multiLine
  /-- The dot matches line feeds as well. -/
  | dotMatchesAll
  /-- Repetitions are as short as possible unless they say otherwise. -/
  | swapGreed
  /-- Sets hold characters of all scripts. -/
  | allScripts
  /-- Carriage returns end lines as well. -/
  | lineReturn
  /-- Blanks and comments in the pattern mean nothing. -/
  | verbose
deriving DecidableEq, Repr

/-- The letter of each flag. -/
def Flag.letters : List (Char × Flag) :=
  [('i', .caseless), ('m', .multiLine), ('s', .dotMatchesAll), ('U', .swapGreed),
   ('u', .allScripts), ('R', .lineReturn), ('x', .verbose)]

/-- A character that stands for itself. -/
structure Literal where
  place : Stretch
  char : Char
  /-- Whether it is written as one byte, by two hexadecimal digits. -/
  isByte : Bool
deriving DecidableEq, Repr

/-- The kinds of assertions that are written in patterns. -/
inductive AssertionKind where
  | startOfLine
  | endOfLine
  | startOfText
  | endOfText
  | wordBoundary
  | noWordBoundary
  | wordStart
  | wordEnd
  | wordStartHalf
  | wordEndHalf
deriving DecidableEq, Repr

/-- The operations on sets in brackets. -/
inductive SetOperation where
  | intersection
  | difference
  | symmetricDifference
deriving DecidableEq, Repr

mutual

/-- A part of a set in brackets. -/
inductive ClassItem where
  | literal (l : Literal)
  | range (place : Stretch) (first last : Literal)
  /-- A set with a name. -/
  | named (place : Stretch) (set : NamedSet) (isNegated : Bool)
  /-- A set of the characters of all scripts, or of seven bits, that is written by a letter. -/
  | shorthand (place : Stretch) (set : NamedSet) (isNegated : Bool)
  /-- The characters with a property, whose value may be given. -/
  | property (place : Stretch) (name : String) (value : Option String)
  /-- A set in brackets inside the brackets. -/
  | bracketed (place : Stretch) (isNegated : Bool) (set : ClassSet)
  | union (place : Stretch) (items : List ClassItem)

/-- What stands in brackets. -/
inductive ClassSet where
  | item (i : ClassItem)
  | combined (place : Stretch) (op : SetOperation) (left right : ClassSet)

end

/-- A pattern as it is written. -/
inductive Expression where
  | empty
  /-- Flags that hold from here to the end of the group. -/
  | flags (settings : List (Flag × Bool))
  | literal (l : Literal)
  | dot (place : Stretch)
  | assertion (place : Stretch) (kind : AssertionKind)
  | shorthand (place : Stretch) (set : NamedSet) (isNegated : Bool)
  | property (place : Stretch) (name : String) (value : Option String)
  | bracketed (place : Stretch) (isNegated : Bool) (set : ClassSet)
  | repetition (place : Stretch) (least : Nat) (most : Option Nat) (e : Expression)
  /-- A group, with the flags that hold in it. -/
  | group (place : Stretch) (settings : List (Flag × Bool)) (e : Expression)
  | alternation (place : Stretch) (branches : List Expression)
  | concatenation (place : Stretch) (parts : List Expression)

/-! ### Depth -/

/-- How deep the parts of an expression may lie in one another. -/
def depthLimit : Nat := 250

mutual

/-- The first part of a set's item that has no room: each part that holds others takes a level. -/
def ClassItem.tooDeep? (room : Nat) : ClassItem → Option Stretch
  | .bracketed place _ set =>
    match room with
    | 0 => some place
    | room + 1 => set.tooDeep? room
  | .union place (i :: rest) =>
    match room with
    | 0 => some place
    | room + 1 => i.tooDeep? room <|> itemsTooDeep? room rest
  | _ => none

/-- The first part of a set that has no room. -/
def ClassSet.tooDeep? (room : Nat) : ClassSet → Option Stretch
  | .item i => i.tooDeep? room
  | .combined place _ left right =>
    match room with
    | 0 => some place
    | room + 1 => left.tooDeep? room <|> right.tooDeep? room

/-- The first part of some items that has no room. -/
def itemsTooDeep? (room : Nat) : List ClassItem → Option Stretch
  | [] => none
  | i :: rest => i.tooDeep? room <|> itemsTooDeep? room rest

end

mutual

/-- The first part of an expression that has no room: each part that holds others takes a level. -/
def Expression.tooDeep? (room : Nat) : Expression → Option Stretch
  | .bracketed place _ set =>
    match room with
    | 0 => some place
    | room + 1 => set.tooDeep? room
  | .repetition place _ _ e | .group place _ e =>
    match room with
    | 0 => some place
    | room + 1 => e.tooDeep? room
  | .alternation place es | .concatenation place es =>
    match room with
    | 0 => some place
    | room + 1 => partsTooDeep? room es
  | _ => none

/-- The first of the parts of some expressions that has no room. -/
def partsTooDeep? (room : Nat) : List Expression → Option Stretch
  | [] => none
  | e :: rest => e.tooDeep? room <|> partsTooDeep? room rest

end

end QuantumAssembler.Pattern
