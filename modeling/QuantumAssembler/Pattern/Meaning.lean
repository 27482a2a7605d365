import QuantumAssembler.Pattern.Basic
import QuantumAssembler.Pattern.Reader.Group

/-!
Module: QuantumAssembler.Pattern.Meaning
Purpose: The patterns that expressions mean. Flags hold from where they stand to the end of the
  group around them. Where characters of all scripts are meant, which is so unless a flag says
  otherwise, neither the letters of a set, nor its properties, nor the cases of its characters are
  known; where characters of seven bits are meant, nothing may match a part of a longer character.
Main exports: Mode, Sense, Expression.sense, Pattern.ofText
-/

namespace QuantumAssembler

namespace Pattern

/-! ### Modes -/

/-- The flags in force. -/
structure Mode where
  caseless : Bool := false
  multiLine : Bool := false
  dotMatchesAll : Bool := false
  allScripts : Bool := true
  lineReturn : Bool := false

/-- Turns a flag on or off. Whether repetitions are long or short, and blanks, change no meaning. -/
def Mode.set (m : Mode) (f : Flag) (isOn : Bool) : Mode :=
  match f with
  | .caseless => { m with caseless := isOn }
  | .multiLine => { m with multiLine := isOn }
  | .dotMatchesAll => { m with dotMatchesAll := isOn }
  | .allScripts => { m with allScripts := isOn }
  | .lineReturn => { m with lineReturn := isOn }
  | .swapGreed | .verbose => m

/-- Turns some flags on or off. -/
def Mode.setAll (m : Mode) (settings : List (Flag × Bool)) : Mode :=
  settings.foldl (fun m (f, isOn) => m.set f isOn) m

/-- What is wrong with a stretch. -/
def faultAt {α : Type} (cause : Cause) (place : Stretch) : Except Fault α :=
  .error (.placed cause place none)

/-! ### Sets -/

/-- A set with the cases of its letters added and with its negation carried out, as the mode asks
    for. -/
def Mode.complete (m : Mode) (place : Stretch) (isNegated : Bool) (set : CharSet) :
    Except Fault CharSet :=
  if m.allScripts then
    if m.caseless && !set.isVoid then faultAt .noCases place
    else .ok (if isNegated then .complement set else set)
  else if isNegated then faultAt .brokenText place
  else .ok (if m.caseless then .caseless set else set)

/-- The set of a letter: unknown for all scripts. -/
def Mode.shorthand (m : Mode) (place : Stretch) (set : NamedSet) (isNegated : Bool) :
    Except Fault CharSet :=
  if m.allScripts then faultAt .noScripts place
  else if isNegated then faultAt .brokenText place
  else .ok set.set

/-- The name of a property as names are compared: small letters only, without the word `is` in front
    and without blanks, hyphens and low lines. -/
def plainName (name : String) : String :=
  let cs := match name.toList with
    | i :: s :: rest => if i.toLower == 'i' && s.toLower == 's' then rest else i :: s :: rest
    | cs => cs
  String.ofList <| (cs.filter fun c => c.toNat < 0x80 && c != ' ' && c != '-' && c != '_').map
    Char.toLower

/-- The properties whose names are also values of another property. -/
def ambiguousProperties : List String := ["cf", "sc", "lc"]

/-- The set of a property: no property is known. -/
def Mode.property (m : Mode) (place : Stretch) (name : String) (value : Option String) :
    Except Fault CharSet :=
  if !m.allScripts then faultAt .otherScripts place
  else if value.isNone && ambiguousProperties.contains (plainName name) then
    faultAt .unknownPropertyValue place
  else faultAt .unknownProperty place

/-- The character that a literal stands for in a set. -/
def Mode.member (m : Mode) (l : Literal) : Except Fault Char :=
  if m.allScripts || l.char.toNat < 0x80 then .ok l.char
  else if l.isByte then faultAt .brokenText l.place
  else faultAt .otherScripts l.place

/-- The sets that an operation is about, with the cases of their letters added. -/
def Mode.combine (m : Mode) (op : SetOperation) (leftPlace rightPlace : Stretch)
    (left right : CharSet) : Except Fault CharSet := do
  let right ← if m.caseless then m.complete rightPlace false right else pure right
  let left ← if m.caseless then m.complete leftPlace false left else pure left
  return match op with
    | .intersection => .intersection left right
    | .difference => .difference left right
    | .symmetricDifference => .symmetricDifference left right

mutual

/-- The characters of a part of a set. -/
def ClassItem.chars (m : Mode) : ClassItem → Except Fault CharSet
  | .literal l => do return .single (← m.member l)
  | .range _ first last => do return .span (← m.member first) (← m.member last)
  | .named place set isNegated => m.complete place isNegated set.set
  | .shorthand place set isNegated => m.shorthand place set isNegated
  | .property place name value => m.property place name value
  | .bracketed place isNegated set => do m.complete place isNegated (← set.chars m)
  | .union _ items => unionOf m items

/-- The characters of what stands in brackets. -/
def ClassSet.chars (m : Mode) : ClassSet → Except Fault CharSet
  | .item i => i.chars m
  | .combined _ op left right => do
    let a ← left.chars m
    let b ← right.chars m
    m.combine op left.place right.place a b

/-- The characters of some parts of a set. -/
def unionOf (m : Mode) : List ClassItem → Except Fault CharSet
  | [] => .ok .void
  | i :: rest => do
    let a ← i.chars m
    return .union a (← unionOf m rest)

end

/-! ### Patterns -/

/-- The pattern that an expression means. -/
structure Sense where
  pattern : Pattern
  /-- Whether it asks for the words of all scripts. -/
  asksForWords : Bool

/-- A pattern that asks for no words. -/
def Sense.plain (p : Pattern) : Sense := ⟨p, false⟩

/-- The set of the character that a literal stands for. -/
def Mode.literal (m : Mode) (l : Literal) : Except Fault CharSet :=
  if m.allScripts then
    if m.caseless then faultAt .noCases l.place else .ok (.single l.char)
  else if l.isByte && 0x80 ≤ l.char.toNat then faultAt .brokenText l.place
  else if m.caseless && l.char.isAlpha then .ok (.caseless (.single l.char))
  else .ok (.single l.char)

/-- The characters that the dot matches. -/
def Mode.dot (m : Mode) (place : Stretch) : Except Fault CharSet :=
  if !m.allScripts then faultAt .brokenText place
  else if m.dotMatchesAll then .ok .all
  else if m.lineReturn then .ok (.complement (.union (.single '\r') (.single '\n')))
  else .ok (.complement (.single '\n'))

/-- The assertion that a kind of assertions means. -/
def Mode.assertion (m : Mode) : AssertionKind → Assertion
  | .startOfLine =>
    if !m.multiLine then .startOfText
    else if m.lineReturn then .startOfLineReturn else .startOfLine
  | .endOfLine =>
    if !m.multiLine then .endOfText
    else if m.lineReturn then .endOfLineReturn else .endOfLine
  | .startOfText => .startOfText
  | .endOfText => .endOfText
  | .wordBoundary => .wordBoundary
  | .noWordBoundary => .noWordBoundary
  | .wordStart => .wordStart
  | .wordEnd => .wordEnd
  | .wordStartHalf => .wordStartHalf
  | .wordEndHalf => .wordEndHalf

/-- Whether a kind of assertions is about words. -/
def AssertionKind.isAboutWords : AssertionKind → Bool
  | startOfLine | endOfLine | startOfText | endOfText => false
  | _ => true

/-- What a repetition means. No repetition at all asks for nothing. -/
def Sense.times (s : Sense) (least : Nat) (most : Option Nat) : Sense :=
  if most = some 0 then .plain .empty else { s with pattern := .repeated s.pattern least most }

mutual

/-- What an expression means in a mode, and the mode behind it. -/
def Expression.sense (m : Mode) : Expression → Except Fault (Sense × Mode)
  | .empty => .ok (.plain .empty, m)
  | .flags settings => .ok (.plain .empty, m.setAll settings)
  | .literal l => do return (.plain (.oneOf (← m.literal l)), m)
  | .dot place => do return (.plain (.oneOf (← m.dot place)), m)
  | .assertion _ kind => .ok (⟨.assertion (m.assertion kind), kind.isAboutWords && m.allScripts⟩, m)
  | .shorthand place set isNegated => do
    return (.plain (.oneOf (← m.shorthand place set isNegated)), m)
  | .property place name value => do return (.plain (.oneOf (← m.property place name value)), m)
  | .bracketed place isNegated set => do
    return (.plain (.oneOf (← m.complete place isNegated (← set.chars m))), m)
  | .repetition _ least most e => do
    let (s, after) ← e.sense m
    return (s.times least most, after)
  | .group _ settings e => do
    let (s, _) ← e.sense (m.setAll settings)
    return (s, m)
  | .alternation _ branches => alternationSense m branches
  | .concatenation _ parts => concatenationSense m parts

/-- What some branches mean, one of which is to match. -/
def alternationSense (m : Mode) : List Expression → Except Fault (Sense × Mode)
  | [] => .ok (.plain .empty, m)
  | [e] => e.sense m
  | e :: rest => do
    let (first, m) ← e.sense m
    let (others, m) ← alternationSense m rest
    return (⟨.either first.pattern others.pattern, first.asksForWords || others.asksForWords⟩, m)

/-- What some parts mean, which are to match one after the other. -/
def concatenationSense (m : Mode) : List Expression → Except Fault (Sense × Mode)
  | [] => .ok (.plain .empty, m)
  | [e] => e.sense m
  | e :: rest => do
    let (first, m) ← e.sense m
    let (others, m) ← concatenationSense m rest
    return (⟨behind others.pattern first.pattern, first.asksForWords || others.asksForWords⟩, m)

end

end Pattern

open Pattern in
/-- The pattern that a text writes. -/
def Pattern.ofText (text : String) : Except Fault Pattern := do
  let (s, _) ← (← readExpression text).sense {}
  if sizeLimit < s.pattern.size then throw .tooLarge
  if s.asksForWords then throw .noWords
  return s.pattern

end QuantumAssembler
