/-!
Module: QuantumAssembler.Pattern.CharSet
Purpose: Sets of characters, as patterns describe them: spans of code points, put together by the
  operations on sets. `contains` says what a set holds.
Main exports: CharSet, CharSet.contains, CharSet.isVoid, CharSet.ofSpans, NamedSet
-/

namespace QuantumAssembler.Pattern

/-- A set of characters. -/
inductive CharSet where
  /-- The set without characters. -/
  | void
  /-- All characters from the first to the last. -/
  | span (first last : Char)
  | union (a b : CharSet)
  | intersection (a b : CharSet)
  | difference (a b : CharSet)
  | symmetricDifference (a b : CharSet)
  | complement (a : CharSet)
  /-- The set with the other case of each of its letters from A to Z. -/
  | caseless (a : CharSet)
deriving DecidableEq, Repr

/-- The other case of a letter from A to Z; other characters stay as they are. -/
def otherCase (c : Char) : Char :=
  if c.isUpper then c.toLower else c.toUpper

namespace CharSet

/-- Whether a set holds a character. -/
def contains : CharSet → Char → Bool
  | void, _ => false
  | span first last, c => first ≤ c && c ≤ last
  | union a b, c => a.contains c || b.contains c
  | intersection a b, c => a.contains c && b.contains c
  | difference a b, c => a.contains c && !b.contains c
  | symmetricDifference a b, c => a.contains c != b.contains c
  | complement a, c => !a.contains c
  | caseless a, c => a.contains c || a.contains (otherCase c)

/-- Whether a set is written without any character. -/
def isVoid : CharSet → Bool
  | void => true
  | union a b => a.isVoid && b.isVoid
  | intersection a b => a.isVoid || b.isVoid
  | difference a _ => a.isVoid
  | symmetricDifference a b => a.isVoid && b.isVoid
  | caseless a => a.isVoid
  | _ => false

/-- The set of all characters. -/
def all : CharSet := complement void

/-- The set of one character. -/
def single (c : Char) : CharSet := span c c

/-- The set of the characters in some spans. -/
def ofSpans (spans : List (Char × Char)) : CharSet :=
  spans.foldr (fun (first, last) set => union (span first last) set) void

/-- A set that is written without characters holds none. -/
theorem contains_of_isVoid {s : CharSet} (h : s.isVoid = true) (c : Char) :
    s.contains c = false := by
  induction s generalizing c with
  | void => rfl
  | span first last => simp [isVoid] at h
  | union a b iha ihb =>
    obtain ⟨ha, hb⟩ := Bool.and_eq_true_iff.mp h
    simp [contains, iha ha, ihb hb]
  | intersection a b iha ihb =>
    rcases Bool.or_eq_true_iff.mp h with ha | hb
    · simp [contains, iha ha]
    · simp [contains, ihb hb]
  | difference a b iha _ => simp [contains, iha h]
  | symmetricDifference a b iha ihb =>
    obtain ⟨ha, hb⟩ := Bool.and_eq_true_iff.mp h
    simp [contains, iha ha, ihb hb]
  | complement a _ => simp [isVoid] at h
  | caseless a iha => simp [contains, iha h]

end CharSet

/-- The sets of characters that have names in patterns; they hold characters of seven bits only. -/
inductive NamedSet where
  | alphanumeric | alphabetic | sevenBit | blank | control | digit | graphic | lowerCase | printing
  | punctuation | space | upperCase | word | hexadecimal
deriving DecidableEq, Repr

namespace NamedSet

/-- The named sets by their names. -/
def names : List (String × NamedSet) :=
  [("alnum", alphanumeric), ("alpha", alphabetic), ("ascii", sevenBit), ("blank", blank),
   ("cntrl", control), ("digit", digit), ("graph", graphic), ("lower", lowerCase),
   ("print", printing), ("punct", punctuation), ("space", space), ("upper", upperCase),
   ("word", word), ("xdigit", hexadecimal)]

/-- The spans of a named set. -/
def spans : NamedSet → List (Char × Char)
  | alphanumeric => [('0', '9'), ('A', 'Z'), ('a', 'z')]
  | alphabetic => [('A', 'Z'), ('a', 'z')]
  | sevenBit => [('\x00', '\x7f')]
  | blank => [('\t', '\t'), (' ', ' ')]
  | control => [('\x00', '\x1f'), ('\x7f', '\x7f')]
  | digit => [('0', '9')]
  | graphic => [('!', '~')]
  | lowerCase => [('a', 'z')]
  | printing => [(' ', '~')]
  | punctuation => [('!', '/'), (':', '@'), ('[', '\x60'), ('\x7b', '~')]
  | space => [('\t', '\r'), (' ', ' ')]
  | upperCase => [('A', 'Z')]
  | word => [('0', '9'), ('A', 'Z'), ('_', '_'), ('a', 'z')]
  | hexadecimal => [('0', '9'), ('A', 'F'), ('a', 'f')]

/-- The characters of a named set. -/
def set (n : NamedSet) : CharSet := CharSet.ofSpans n.spans

end NamedSet

end QuantumAssembler.Pattern
