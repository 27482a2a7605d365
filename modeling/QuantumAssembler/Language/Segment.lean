import QuantumAssembler.Decimal.Reading
import QuantumAssembler.Language.Token

/-!
Module: QuantumAssembler.Language.Segment
Purpose: The division of a text into segments: blanks, token spellings, and rejected stretches.
  Every character of the text belongs to exactly one segment. A rejected stretch is either one
  illegal character or a whole literal whose number does not fit; reading goes on directly behind
  it.
Main exports: Fault, Segment, Segment.text, numeral?, wordKind, leading, segments,
  flatMap_text_segments
-/

namespace QuantumAssembler

/-- Why a stretch of text is rejected. -/
inductive Fault where
  /-- A character that starts no token. -/
  | illegalCharacter (c : Char)
  /-- A literal whose number does not fit into a machine word. -/
  | numberTooLarge (literal : List Char)
deriving DecidableEq, Repr

/-- A stretch of text as the division finds it. -/
inductive Segment where
  | blank (c : Char)
  | lexeme (kind : TokenKind) (spelling : List Char)
  | rejected (fault : Fault)
deriving DecidableEq, Repr

namespace Segment

/-- The characters that a segment covers. -/
def text : Segment → List Char
  | blank c => [c]
  | lexeme _ spelling => spelling
  | rejected (.illegalCharacter c) => [c]
  | rejected (.numberTooLarge literal) => literal

end Segment

/-! ### Classes of characters -/

/-- The characters that separate tokens. -/
def isBlank (c : Char) : Bool :=
  c == ' ' || c == '\t' || c == '\r' || c == '\n'

/-- The characters of a bit-string. -/
def isBit (c : Char) : Bool :=
  c == '0' || c == '1'

/-- The characters that may begin a word: ASCII letters and the underscore. -/
def isWordStart (c : Char) : Bool :=
  c == '_' || c.isAlpha

/-- The characters that may continue a word. -/
def isWordPart (c : Char) : Bool :=
  c == '_' || c.isAlphanum

/-! ### Numbers -/

/-- The numbers of the language are below this bound. -/
def numeralBound : Nat := Nat.pow 2 64

/-- The value of a row of decimal digits, if it is below the bound. -/
def numeral? (digits : List Char) : Option Nat :=
  if Decimal.valueOf digits < numeralBound then some (Decimal.valueOf digits) else none

/-! ### Words -/

/-- The digits behind `initial`, if the word is that letter followed by one or more digits only. -/
def digitsBehind? (initial : Char) : List Char → Option (List Char)
  | c :: d :: rest => if c = initial ∧ (d :: rest).all Char.isDigit then some (d :: rest) else none
  | _ => none

/-- The segment of a row of digits that counts as `literal`: its number, or a rejection. -/
def numbered (kind : Nat → TokenKind) (digits literal : List Char) : Segment :=
  match numeral? digits with
  | some value => .lexeme (kind value) literal
  | none => .rejected (.numberTooLarge literal)

/-- The segment of a whole word: a reserved word, a register or identity literal, or else a name. -/
def wordSegment (word : List Char) : Segment :=
  match Keyword.ofWord? (String.ofList word) with
  | some k => .lexeme (.keyword k) word
  | none =>
    match digitsBehind? 'R' word with
    | some digits => numbered .register digits word
    | none =>
      match digitsBehind? 'I' word with
      | some digits => numbered .identity digits word
      | none => .lexeme (.name (String.ofList word)) word

/-- The bits of the bit-string that an opening bracket in front of `rest` begins, if it does. -/
def bitsAhead? (rest : List Char) : Option (List Char) :=
  let digits := rest.takeWhile isBit
  if digits ≠ [] ∧ (rest.dropWhile isBit).head? = some ']' then some digits else none

/-! ### The division -/

/-- The segment that the text `c :: rest` begins with. -/
def leading (c : Char) (rest : List Char) : Segment :=
  if isBlank c then .blank c
  else if c = '[' then
    match bitsAhead? rest with
    | some digits => .lexeme (.bits (String.ofList digits)) ('[' :: digits ++ [']'])
    | none => .rejected (.illegalCharacter '[')
  else if c.isDigit then
    let digits := c :: rest.takeWhile Char.isDigit
    numbered .number digits digits
  else if isWordStart c then wordSegment (c :: rest.takeWhile isWordPart)
  else .rejected (.illegalCharacter c)

theorem text_numbered (kind : Nat → TokenKind) (digits literal : List Char) :
    (numbered kind digits literal).text = literal := by
  unfold numbered
  split <;> rfl

theorem text_wordSegment (word : List Char) : (wordSegment word).text = word := by
  unfold wordSegment
  split
  · rfl
  · split
    · exact text_numbered _ _ _
    · split
      · exact text_numbered _ _ _
      · rfl

/-- The bits ahead and the closing bracket stand in front of the rest. -/
theorem eq_append_of_bitsAhead? {rest digits : List Char} (h : bitsAhead? rest = some digits) :
    ∃ behind, rest = digits ++ ']' :: behind := by
  unfold bitsAhead? at h
  simp only at h
  split at h
  · rename_i both
    cases h
    obtain ⟨behind, equation⟩ := List.head?_eq_some_iff.1 both.2
    exact ⟨behind, by rw [← equation, List.takeWhile_append_dropWhile]⟩
  · cases h

/-- The leading segment covers a non-empty front part of the text. -/
theorem leading_text (c : Char) (rest : List Char) :
    ∃ spelling behind, (leading c rest).text = c :: spelling ∧ rest = spelling ++ behind := by
  unfold leading
  split
  · exact ⟨[], rest, rfl, rfl⟩
  · split
    · rename_i bracket
      subst bracket
      split
      · rename_i digits found
        obtain ⟨behind, equation⟩ := eq_append_of_bitsAhead? found
        exact ⟨digits ++ [']'], behind, rfl, by simp [equation]⟩
      · exact ⟨[], rest, rfl, rfl⟩
    · split
      · exact ⟨_, _, text_numbered _ _ _, (List.takeWhile_append_dropWhile).symm⟩
      · split
        · exact ⟨_, _, text_wordSegment _, (List.takeWhile_append_dropWhile).symm⟩
        · exact ⟨[], rest, rfl, rfl⟩

/-- Behind the leading segment less text is left. -/
theorem length_drop_leading_lt (c : Char) (rest : List Char) :
    ((c :: rest).drop (leading c rest).text.length).length < (c :: rest).length := by
  obtain ⟨spelling, behind, covers, _⟩ := leading_text c rest
  rw [List.length_drop, covers, List.length_cons, List.length_cons]
  omega

/-- The segments of a text, in order. -/
def segments : List Char → List Segment
  | [] => []
  | c :: rest => leading c rest :: segments ((c :: rest).drop (leading c rest).text.length)
termination_by cs => cs.length
decreasing_by exact length_drop_leading_lt c rest

/-- The segments of a text, put together again, are the text. -/
theorem flatMap_text_segments (cs : List Char) : (segments cs).flatMap Segment.text = cs := by
  fun_induction segments cs with
  | case1 => rfl
  | case2 c rest ih =>
    obtain ⟨spelling, behind, covers, equation⟩ := leading_text c rest
    rw [List.flatMap_cons, ih, covers, equation]
    simp

end QuantumAssembler
