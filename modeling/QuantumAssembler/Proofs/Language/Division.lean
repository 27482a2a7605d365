import QuantumAssembler.Proofs.Language.Coverage

/-!
Module: QuantumAssembler.Proofs.Language.Division
Purpose: A character that no token contains, a blank for instance, cuts the division of a text. No
  token reaches over it, and none is recognised by what stands behind it, so the text in front of it
  and the text behind it are divided each on its own. The kinds of the tokens of a text are those of
  its segments.
Main exports: takeWhile_append_of_head, Separates, segments_append_separator, segments_of_leading,
  segments_append_cons, segments_append_of_blank, tokenize_eq_placed, Segment.kind?,
  Segment.fault?, placed_append, map_kind_placed, map_fault_placed
-/

namespace QuantumAssembler

/-! ### Rows that a character ends -/

section Rows

variable {α : Type} {p : α → Bool} {a : α}

/-- A row of accepted elements ends in front of an element that is not accepted. -/
theorem takeWhile_append_cons (stop : p a = false) (before behind : List α) :
    (before ++ a :: behind).takeWhile p = before.takeWhile p := by
  induction before with
  | nil => simp [stop]
  | cons b rest ih => cases accepted : p b <;> simp [accepted, ih]

/-- What is left behind such a row still has that element in it. -/
theorem dropWhile_append_cons (stop : p a = false) (before behind : List α) :
    (before ++ a :: behind).dropWhile p = before.dropWhile p ++ a :: behind := by
  induction before with
  | nil => simp [stop]
  | cons b rest ih => cases accepted : p b <;> simp [accepted, ih]

/-- A row of accepted elements ends in front of a rest that does not begin with one. -/
theorem takeWhile_append_of_head {run behind : List α} (accepted : ∀ b ∈ run, p b = true)
    (stop : ∀ b ∈ behind.head?, p b = false) : (run ++ behind).takeWhile p = run := by
  rw [List.takeWhile_append_of_pos accepted]
  cases behind with
  | nil => simp
  | cons b rest => simp [stop b rfl]

/-- What such a row leaves behind does not begin with an accepted element. -/
theorem head_dropWhile (row : List α) : ∀ b ∈ (row.dropWhile p).head?, p b = false := by
  intro b first
  simpa [Option.mem_def.mp first] using List.head?_dropWhile_not p row

end Rows

/-! ### Characters that separate -/

/-- A character that no token contains. -/
structure Separates (c : Char) : Prop where
  noBit : isBit c = false
  notOpening : c ≠ '['
  notClosing : c ≠ ']'
  noDigit : c.isDigit = false
  noPart : isWordPart c = false

/-- The segment that such a character is. -/
def Segment.ofSeparator (c : Char) : Segment :=
  if isBlank c then .blank c else .rejected (.illegalCharacter c)

/-- A blank is no bit, is no bracket, is no digit and is in no word. -/
theorem separates_of_isBlank {b : Char} (blank : isBlank b = true) : Separates b := by
  simp only [isBlank, Bool.or_eq_true, beq_iff_eq, or_assoc] at blank
  rcases blank with rfl | rfl | rfl | rfl
  · constructor <;> decide
  · constructor <;> decide
  · constructor <;> decide
  · constructor <;> decide

theorem isBlank_eq_false_of_isWordPart {c : Char} (part : isWordPart c = true) :
    isBlank c = false := by
  cases blank : isBlank c with
  | false => rfl
  | true => exact absurd part (by simp [(separates_of_isBlank blank).noPart])

section Separators

variable {b : Char} (separates : Separates b)
include separates

/-- A bit-string that is closed is closed in front of the next separator. -/
theorem bitsAhead?_append_cons (rest behind : List Char) :
    bitsAhead? (rest ++ b :: behind) = bitsAhead? rest := by
  unfold bitsAhead?
  rw [takeWhile_append_cons separates.noBit, dropWhile_append_cons separates.noBit]
  cases rest.dropWhile isBit with
  | nil => simp [separates.notClosing]
  | cons c others => rfl

/-- The leading segment does not depend on what begins with a separator. -/
theorem leading_append_cons (c : Char) (rest behind : List Char) :
    leading c (rest ++ b :: behind) = leading c rest := by
  unfold leading
  rw [bitsAhead?_append_cons separates, takeWhile_append_cons separates.noDigit,
    takeWhile_append_cons separates.noPart]

theorem segments_cons_of_separates (rest : List Char) :
    segments (b :: rest) = .ofSeparator b :: segments rest := by
  have noStart : isWordStart b = false := by
    have noPart := separates.noPart
    simp only [isWordPart, Char.isAlphanum, Bool.or_eq_false_iff] at noPart
    simp [isWordStart, noPart.1, noPart.2.1]
  have first : leading b rest = .ofSeparator b := by
    simp [leading, Segment.ofSeparator, separates.notOpening, separates.noDigit, noStart]
  have whole : (Segment.ofSeparator b).text = [b] := by
    unfold Segment.ofSeparator
    split <;> rfl
  rw [segments, first, whole]
  rfl

/-- The text in front of a separator and the text behind it are divided each on its own. -/
theorem segments_append_separator (before behind : List Char) :
    segments (before ++ b :: behind) = segments before ++ .ofSeparator b :: segments behind := by
  fun_induction segments before with
  | case1 => exact segments_cons_of_separates separates behind
  | case2 c rest ih =>
      -- The leading segment is inside the text in front, so the same is cut off on both sides.
      obtain ⟨spelling, left, covers, rfl⟩ := leading_text c rest
      have short : (leading c (spelling ++ left)).text.length ≤
          (c :: (spelling ++ left)).length := by
        rw [covers]
        simp
      rw [List.cons_append, segments, leading_append_cons separates, List.cons_append, ← ih,
        ← List.drop_append_of_le_length short]
      rfl

end Separators

/-- A text that its leading segment covers has no other segment. -/
theorem segments_of_leading {c : Char} {rest : List Char} {s : Segment}
    (first : leading c rest = s) (whole : s.text = c :: rest) : segments (c :: rest) = [s] := by
  rw [segments, first, whole, List.drop_length, segments]

/-- The text in front of a blank and the text behind it are divided each on its own. -/
theorem segments_append_cons {b : Char} (blank : isBlank b = true) (before behind : List Char) :
    segments (before ++ b :: behind) = segments before ++ .blank b :: segments behind := by
  rw [segments_append_separator (separates_of_isBlank blank), Segment.ofSeparator, if_pos blank]

/-- Blanks in front of a text are segments of their own. -/
theorem segments_append_of_blank {gap : List Char} (blank : ∀ b ∈ gap, isBlank b = true)
    (rest : List Char) : segments (gap ++ rest) = gap.map .blank ++ segments rest := by
  induction gap with
  | nil => rfl
  | cons b gap ih =>
      have others := ih fun d member => blank d (List.mem_cons_of_mem b member)
      rw [List.cons_append, ← List.nil_append (b :: _),
        segments_append_cons (blank b List.mem_cons_self), others, segments]
      rfl

/-! ### Tokens of segments -/

/-- The tokens of a text, an end token behind them, and its diagnostics are those of its segments.
    -/
theorem tokenize_eq_placed (cs : List Char) :
    tokenize cs =
      ((placed .start (segments cs)).filterMap tokenAt? ++ [.atEnd (Position.start.after cs)],
        (placed .start (segments cs)).filterMap diagnosticAt?) := by
  simp [tokenize_eq_pending, TokenStream.pending, TokenStream.allDiagnostics, TokenStream.ofText]

/-- The kind of the token that a segment is, if it is one. -/
def Segment.kind? : Segment → Option TokenKind
  | .lexeme kind _ => some kind
  | _ => none

/-- The fault of a segment, if it is rejected. -/
def Segment.fault? : Segment → Option Fault
  | .rejected fault => some fault
  | _ => none

/-- A row of segments in two parts: the second begins where the first ends. -/
theorem placed_append (p : Position) (first second : List Segment) :
    placed p (first ++ second) =
      placed p first ++ placed (p.after (first.flatMap Segment.text)) second := by
  induction first generalizing p with
  | nil => rfl
  | cons s rest ih => simp [placed, ih]

/-- The tokens of placed segments have the kinds of the segments. -/
theorem map_kind_placed (p : Position) (row : List Segment) :
    ((placed p row).filterMap tokenAt?).map Token.kind = row.filterMap Segment.kind? := by
  induction row generalizing p with
  | nil => rfl
  | cons s rest ih =>
      rw [placed, List.filterMap_cons, List.filterMap_cons]
      cases s with
      | blank c => exact ih _
      | lexeme kind spelling => exact congrArg (kind :: ·) (ih _)
      | rejected fault => exact ih _

/-- The diagnostics of placed segments have the faults of the segments. -/
theorem map_fault_placed (p : Position) (row : List Segment) :
    ((placed p row).filterMap diagnosticAt?).map Diagnostic.fault =
      row.filterMap Segment.fault? := by
  induction row generalizing p with
  | nil => rfl
  | cons s rest ih =>
      rw [placed, List.filterMap_cons, List.filterMap_cons]
      cases s with
      | blank c => exact ih _
      | lexeme kind spelling => exact ih _
      | rejected fault => exact congrArg (fault :: ·) (ih _)

end QuantumAssembler
