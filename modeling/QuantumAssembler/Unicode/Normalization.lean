import QuantumAssembler.Text.NormalForm
import QuantumAssembler.Unicode.CombiningClass
import QuantumAssembler.Unicode.Decomposition

/-!
Module: QuantumAssembler.Unicode.Normalization
Purpose: Normalization form C. The text is cut in front of every character below U+0300: such a
  character is a starter that no composite has as its second part, so each piece is normalized on
  its own. A piece of one such character stays as it is. Any other piece is decomposed, its marks
  are put into order of class, and what can be composed is composed.
Main exports: clusters, arrange, compose, normalize, normalForm
-/

namespace QuantumAssembler.Unicode

/-- Cuts a text in front of every basic character. -/
def clusters : List Char → List (List Char)
  | [] => []
  | c :: rest =>
    match clusters rest with
    | (d :: cluster) :: others =>
      if isBasic d then [c] :: (d :: cluster) :: others else (c :: d :: cluster) :: others
    | others => [c] :: others

/-- Puts a character in front of an arranged text: it moves behind the marks of lower class. -/
def place (c : Char) : List Char → List Char
  | [] => [c]
  | d :: rest =>
    if 0 < combiningClass d ∧ combiningClass d < combiningClass c then d :: place c rest
    else c :: d :: rest

/-- Puts the marks behind each starter into order of class, keeping the order within a class. -/
def arrange (cs : List Char) : List Char :=
  cs.foldr place []

/-- Composes the arranged text behind a starter. `skipped` are the marks since then that did not
    compose, and `highest` is the class of the last of them. A character that has a mark of the
    same or a higher class between itself and the starter is blocked and does not compose. -/
def composeFrom (starter : Char) (skipped : List Char) (highest : Nat) : List Char → List Char
  | [] => starter :: skipped
  | c :: rest =>
    let blocked := !skipped.isEmpty && combiningClass c ≤ highest
    match if blocked then none else composite? starter c with
    | some whole => composeFrom whole skipped highest rest
    | none =>
      if isStarter c then (starter :: skipped) ++ composeFrom c [] 0 rest
      else composeFrom starter (skipped ++ [c]) (combiningClass c) rest

/-- Composes an arranged text; marks in front of the first starter stay. -/
def compose : List Char → List Char
  | [] => []
  | c :: rest => if isStarter c then composeFrom c [] 0 rest else c :: compose rest

/-- The normal form of one cluster. -/
def normalizeCluster (cs : List Char) : List Char :=
  match cs with
  | [c] => if isBasic c then [c] else compose (arrange (decompose c))
  | _ => compose (arrange (cs.flatMap decompose))

/-- The normal form of a text. -/
def normalize (cs : List Char) : List Char :=
  (clusters cs).flatMap normalizeCluster

/-- The normal form of source texts is normalization form C. -/
instance normalForm : NormalForm := ⟨normalize⟩

end QuantumAssembler.Unicode
