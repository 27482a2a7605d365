import QuantumAssembler.Proofs.Language.WellFormed
import QuantumAssembler.Proofs.Text.Margins

/-!
Module: QuantumAssembler.Proofs.Language.Margins
Purpose: White space at the ends of a text does not change which tokens it has, for every normal
  form that keeps the margins of texts. No token contains white space, be it a blank or not. So a
  line is read as the same instruction before it is trimmed and after.
Main exports: whitePoints, separates_of_isWhiteSpace, tokenKinds, filterMap_kind?_append,
  tokenKinds_trim, readLine_trim
-/

namespace QuantumAssembler

/-- The code points of white space. -/
def whitePoints : List Nat :=
  List.range' 0x09 5 ++ List.range' 0x2000 11 ++
    [0x20, 0x85, 0xA0, 0x1680, 0x2028, 0x2029, 0x202F, 0x205F, 0x3000]

theorem toNat_mem_whitePoints {c : Char} (white : Text.isWhiteSpace c = true) :
    c.toNat ∈ whitePoints := by
  simp only [Text.isWhiteSpace, Bool.or_eq_true, Bool.and_eq_true, decide_eq_true_eq,
    beq_iff_eq] at white
  simp only [whitePoints, List.mem_append, List.mem_range'_1, List.mem_cons, List.not_mem_nil,
    or_false]
  omega

/-- White space is in no token. -/
theorem separates_of_isWhiteSpace {c : Char} (white : Text.isWhiteSpace c = true) :
    Separates c := by
  have apart : ∀ n ∈ whitePoints,
      isBit (Char.ofNat n) = false ∧ Char.ofNat n ≠ '[' ∧ Char.ofNat n ≠ ']' ∧
        (Char.ofNat n).isDigit = false ∧ isWordPart (Char.ofNat n) = false := by
    decide
  have found := apart c.toNat (toNat_mem_whitePoints white)
  rw [Char.ofNat_toNat] at found
  obtain ⟨noBit, notOpening, notClosing, noDigit, noPart⟩ := found
  exact ⟨noBit, notOpening, notClosing, noDigit, noPart⟩

/-- The kinds of the tokens of a text, once it is in normal form. -/
def tokenKinds [NormalForm] (cs : List Char) : List TokenKind :=
  (segments (NormalForm.normalize cs)).filterMap Segment.kind?

theorem kind?_ofSeparator (c : Char) : (Segment.ofSeparator c).kind? = none := by
  unfold Segment.ofSeparator
  split <;> rfl

/-- White space parts the tokens of the text in front of it from those of the text behind it. -/
theorem filterMap_kind?_append {c : Char} (white : Text.isWhiteSpace c = true)
    (before behind : List Char) :
    (segments (before ++ c :: behind)).filterMap Segment.kind? =
      (segments before).filterMap Segment.kind? ++ (segments behind).filterMap Segment.kind? := by
  rw [segments_append_separator (separates_of_isWhiteSpace white), List.filterMap_append,
    List.filterMap_cons, kind?_ofSeparator]

section Kept

variable [NormalForm] (keeps : NormalForm.KeepsMargins)

include keeps

/-- White space in front of a text adds no token. -/
theorem tokenKinds_cons {c : Char} (white : Text.isWhiteSpace c = true) (cs : List Char) :
    tokenKinds (c :: cs) = tokenKinds cs := by
  obtain ⟨d, whiteToo, normalized⟩ := keeps.cons c white cs
  have parted := filterMap_kind?_append whiteToo [] (NormalForm.normalize cs)
  rw [segments, List.filterMap_nil, List.nil_append, List.nil_append] at parted
  rw [tokenKinds, normalized, parted, tokenKinds]

/-- White space behind a text adds no token. -/
theorem tokenKinds_concat {c : Char} (white : Text.isWhiteSpace c = true) (cs : List Char) :
    tokenKinds (cs ++ [c]) = tokenKinds cs := by
  obtain ⟨d, whiteToo, normalized⟩ := keeps.concat c white cs
  rw [tokenKinds, normalized, filterMap_kind?_append whiteToo, segments, List.filterMap_nil,
    List.append_nil, tokenKinds]

theorem tokenKinds_append_of_all {gap : List Char}
    (white : ∀ c ∈ gap, Text.isWhiteSpace c = true) (cs : List Char) :
    tokenKinds (gap ++ cs) = tokenKinds cs := by
  induction gap with
  | nil => rfl
  | cons c gap ih =>
      rw [List.cons_append, tokenKinds_cons keeps (white c List.mem_cons_self)]
      exact ih fun d member => white d (List.mem_cons_of_mem c member)

theorem tokenKinds_of_append_all {gap : List Char}
    (white : ∀ c ∈ gap, Text.isWhiteSpace c = true) (cs : List Char) :
    tokenKinds (cs ++ gap) = tokenKinds cs := by
  induction gap generalizing cs with
  | nil => rw [List.append_nil]
  | cons c gap ih =>
      rw [List.append_cons, ih (fun d member => white d (List.mem_cons_of_mem c member)),
        tokenKinds_concat keeps (white c List.mem_cons_self)]

/-- A text has the same tokens trimmed. -/
theorem tokenKinds_trim (cs : List Char) : tokenKinds (Text.trim cs) = tokenKinds cs := by
  obtain ⟨front, back, whole, whiteFront, whiteBack⟩ := Text.exists_trim cs
  have unfolded : tokenKinds cs = tokenKinds (front ++ Text.trim cs ++ back) :=
    congrArg tokenKinds whole
  rw [unfolded, tokenKinds_of_append_all keeps whiteBack, tokenKinds_append_of_all keeps whiteFront]

/-- A line is read as an instruction exactly if it is read so trimmed. -/
theorem readLine_trim (line : List Char) (i : Instruction) :
    (readLine (String.ofList (Text.trim line))).1 = .ok i ↔
      (readLine (String.ofList line)).1 = .ok i := by
  have kinds := tokenKinds_trim keeps line
  rw [tokenKinds, tokenKinds] at kinds
  rw [readLine_eq_ok_iff, readLine_eq_ok_iff, String.toList_ofList, String.toList_ofList, kinds]

end Kept

end QuantumAssembler
