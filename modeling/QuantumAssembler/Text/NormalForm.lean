import QuantumAssembler.Text.WhiteSpace

/-!
Module: QuantumAssembler.Text.NormalForm
Purpose: The normal form into which a source text is brought before it is read, as a parameter of
  everything that reads source texts, and three facts that are known of normalization form C. A
  result about source texts holds for every normal form, or it names those of them that it needs.
Main exports: Text.IsAscii, NormalForm, NormalForm.ActsOnLines, NormalForm.KeepsMargins,
  NormalForm.KeepsAscii
-/

namespace QuantumAssembler

/-- An ASCII character. -/
def Text.IsAscii (c : Char) : Prop :=
  c.toNat < 0x80

instance (c : Char) : Decidable (Text.IsAscii c) :=
  inferInstanceAs (Decidable (_ < _))

/-- A way to bring texts into normal form. Normalization form C is one. -/
class NormalForm where
  normalize : List Char → List Char

namespace NormalForm

/-- Each line is brought into normal form on its own: nothing moves or composes across the end of a
    line, and no line is broken into two. -/
structure ActsOnLines [NormalForm] : Prop where
  nil : normalize [] = []
  append_cons : ∀ c, c = '\n' ∨ c = '\r' → ∀ before behind,
    normalize (before ++ c :: behind) = normalize before ++ c :: normalize behind
  newline_mem : ∀ cs, '\n' ∈ normalize cs → '\n' ∈ cs

/-- White space at the ends of a text takes no part in the normal form of what stands between. One
    such character may become another. -/
structure KeepsMargins [NormalForm] : Prop where
  cons : ∀ c, Text.isWhiteSpace c = true → ∀ cs,
    ∃ d, Text.isWhiteSpace d = true ∧ normalize (c :: cs) = d :: normalize cs
  concat : ∀ c, Text.isWhiteSpace c = true → ∀ cs,
    ∃ d, Text.isWhiteSpace d = true ∧ normalize (cs ++ [c]) = normalize cs ++ [d]

/-- Texts of ASCII characters are in normal form. -/
def KeepsAscii [NormalForm] : Prop :=
  ∀ cs : List Char, (∀ c ∈ cs, Text.IsAscii c) → normalize cs = cs

end NormalForm

end QuantumAssembler
