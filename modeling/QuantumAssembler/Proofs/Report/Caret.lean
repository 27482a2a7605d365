import QuantumAssembler.Proofs.Language.Coverage
import QuantumAssembler.Proofs.Language.ViablePrefix
import QuantumAssembler.Proofs.Language.WrittenForm
import QuantumAssembler.Proofs.Text.Position
import QuantumAssembler.Report.Caret

/-!
Module: QuantumAssembler.Proofs.Report.Caret
Purpose: Reports without colours end in the source line and a line of carets, behind margins of
  equal width, so that carets stand under the columns of the span. For a line that is refused as it
  stands, the one caret is under the first character of the token at which reading is stuck, or
  behind the last character of the line.
Main exports: Marks, renderError_marks, exists_of_tokenize_eq_append, exists_of_readLine_eq_error,
  renderError_marks_columns
-/

namespace QuantumAssembler

/-! ### The parts of a report -/

/-- A report ends in the line with the given number and a line of carets. Both stand behind margins
    of equal width, that of the line ending in its number; the carets stand under exactly those
    characters of the line, counted from zero, that are marked. -/
def Marks (report : String) (number : Nat) (line : List Char) (marked : Nat → Prop) : Prop :=
  ∃ head gutter margin carets : List Char,
    report.toList = head ++ '\n' :: (gutter ++ line) ++ '\n' :: (margin ++ carets) ++ ['\n'] ∧
    gutter.length = margin.length ∧ (toString number ++ " | ").toList <:+ gutter ∧
    '\n' ∉ gutter ++ line ∧ '\n' ∉ margin ++ carets ∧ '^' ∉ margin ∧
    ∀ k, carets[k]? = some '^' ↔ marked k

theorem Marks.congr {report : String} {number : Nat} {line : List Char}
    {marked other : Nat → Prop} (marks : Marks report number line marked)
    (same : ∀ k, marked k ↔ other k) : Marks report number line other := by
  obtain ⟨head, gutter, margin, carets, whole, wide, numbered, first, second, free, stand⟩ := marks
  exact ⟨head, gutter, margin, carets, whole, wide, numbered, first, second, free,
    fun k => (stand k).trans (same k)⟩

theorem toList_blanks (n : Nat) : (blanks n).toList = List.replicate n ' ' :=
  String.toList_ofList

theorem toList_underline (span : Span) :
    (underline span).toList =
      List.replicate (span.column - 1) ' ' ++ List.replicate (max span.length 1) '^' := by
  rw [underline, String.toList_append, toList_blanks, String.toList_ofList]

/-- Carets stand under the columns of the span. -/
theorem getElem?_underline_iff {span : Span} (some : 1 ≤ span.column) (k : Nat) :
    (underline span).toList[k]? = .some '^' ↔
      span.column ≤ k + 1 ∧ k + 1 ≤ span.column + max span.length 1 - 1 := by
  rw [toList_underline, List.getElem?_append, List.length_replicate, List.getElem?_replicate,
    List.getElem?_replicate]
  split
  · simp
    omega
  · simp
    omega

theorem toList_paddedNumber (n : Nat) :
    (paddedNumber n).toList =
      List.replicate (4 - (toString n).length) ' ' ++ (toString n).toList := by
  rw [paddedNumber, String.toList_append, toList_blanks]

/-- Numbers are written on one line. -/
theorem newline_not_mem_paddedNumber (n : Nat) : '\n' ∉ (paddedNumber n).toList := by
  rw [toList_paddedNumber, toList_toString]
  intro feed
  rcases List.mem_append.mp feed with feed | feed
  · cases List.eq_of_mem_replicate feed
  · cases Nat.isDigit_of_mem_toDigits (b := 10) (by decide) (by decide) feed

theorem newline_not_mem_underline (span : Span) : '\n' ∉ (underline span).toList := by
  rw [toList_underline]
  intro feed
  rcases List.mem_append.mp feed with feed | feed
  · cases List.eq_of_mem_replicate feed
  · cases List.eq_of_mem_replicate feed

/-- The margin in front of a line, which begins with a text. -/
def reportMargin (front : String) : List Char :=
  front.toList ++ [' ', '|', ' ']

theorem paint_false (style : Style) (text : String) : style.paint false text = text := rfl

/-- A report without colours ends in the source line behind its number and in the carets behind a
    margin as wide. -/
theorem toList_renderError (origin title line : String) (span : Span) :
    ∃ head, (renderError false origin line title span).toList =
      head ++ '\n' :: (reportMargin (paddedNumber span.line) ++ line.toList) ++
        '\n' :: (reportMargin (blanks (paddedNumber span.line).length) ++
          (underline span).toList) ++ ['\n'] := by
  have blank : " ".toList = [' '] := String.toList_ofList
  have bar : "|".toList = ['|'] := String.toList_ofList
  have feed : "\n".toList = ['\n'] := String.toList_ofList
  refine ⟨("error:" ++ " " ++ title ++ "\n" ++ "-->" ++ " " ++
    (origin ++ ":" ++ toString span.line ++ ":" ++ toString span.column) ++ "\n" ++
    blanks (paddedNumber span.line).length ++ " " ++ "|").toList, ?_⟩
  unfold renderError reportMargin
  dsimp only [paint_false]
  simp only [String.toList_append, List.append_assoc, blank, bar, feed, List.cons_append,
    List.nil_append]

/-- A report marks the columns of its span in its source line. -/
theorem renderError_marks (origin title : String) {line : String} (noFeed : '\n' ∉ line.toList)
    {span : Span} (some : 1 ≤ span.column) :
    Marks (renderError false origin line title span) span.line line.toList fun k =>
      span.column ≤ k + 1 ∧ k + 1 ≤ span.column + max span.length 1 - 1 := by
  obtain ⟨head, whole⟩ := toList_renderError origin title line span
  refine ⟨head, _, _, _, whole, ?_, ?_, ?_, ?_, ?_, getElem?_underline_iff some⟩
  · simp [reportMargin, toList_blanks, String.length_toList]
  · rw [String.toList_append, reportMargin, toList_paddedNumber, List.append_assoc,
      String.toList_ofList]
    exact List.suffix_append _ _
  · simpa [reportMargin, newline_not_mem_paddedNumber] using noFeed
  · simpa [reportMargin, toList_blanks] using newline_not_mem_underline span
  · simp [reportMargin, toList_blanks]

/-! ### Where reading fails -/

/-- A token stands behind the text that the tokens before it cover. An inner token is spelled there;
    the end token stands behind the whole text. -/
theorem exists_of_tokenize_eq_append {cs : List Char} {front rest : List Token} {t : Token}
    (whole : (tokenize cs).1 = front ++ t :: rest) :
    ∃ before behind skipped, cs = before ++ t.lexeme.toList ++ behind ∧
      Covers .start before front skipped ∧ t.position = .behind before ∧
      (t.kind = .endOfInput → before = cs) ∧ (t.kind ≠ .endOfInput → t.lexeme.toList ≠ []) := by
  obtain ⟨inner, tokens, covers⟩ := covers_tokenize cs
  rw [tokens] at whole
  rcases List.eq_nil_or_concat rest with rfl | ⟨others, last, rfl⟩
  · obtain ⟨rfl, same⟩ := List.append_inj' whole rfl
    obtain rfl := (List.cons.inj same).1
    exact ⟨cs, [], _, by simp [Token.atEnd], covers, Position.after_start cs, fun _ => rfl,
      fun noEnd => absurd rfl noEnd⟩
  · have first : inner = front ++ t :: others := by
      rw [List.concat_eq_append, ← List.cons_append, ← List.append_assoc] at whole
      exact (List.append_inj' whole rfl).1
    obtain ⟨before, behind, skipped, split, spelled, place, inFront⟩ :=
      covers.exists_of_eq_append first
    have noEnd : t.isEnd = false := covers.isEnd_eq_false t (by simp [first])
    refine ⟨before, behind, skipped, split, inFront, place.trans (Position.after_start before), ?_,
      fun _ => spelled⟩
    intro ended
    simp [Token.isEnd, ended] at noEnd

/-- A source that is refused is refused at one of its tokens: the kinds in front of it are viable,
    and with its own kind they are so no longer. -/
theorem exists_of_readLine_eq_error [NormalForm] {source : String} {e : SyntaxError}
    (refused : (readLine source).1 = .error e) :
    ∃ front t rest, (tokenizeSource source).1 = front ++ t :: rest ∧
      Viable (front.map Token.kind) ∧ ¬ Viable ((front ++ [t]).map Token.kind) ∧
      e.position = t.position := by
  obtain ⟨inner, tokens, -⟩ := covers_tokenize (NormalForm.normalize source.toList)
  have read : readTokens (tokenizeSource source).1 = .error e := refused
  cases result : Production.sentence (.ofTokens (tokenizeSource source).1) with
  | ok i after =>
      rw [readTokens, result] at read
      cases read
  | error other after =>
      rw [readTokens, result] at read
      cases read
      obtain ⟨ks, reads, ⟨viable, hopeless⟩, place, -⟩ := Production.stuck_of_sentence result
      obtain ⟨front, whole, rfl⟩ := (Cursor.closed_ofTokens _).1.exists_of_reads reads
      rw [tokenizeSource, tokens, Cursor.ofTokens_append rfl, ← tokens] at whole
      exact ⟨front, after.current, after.later, whole, viable, by simpa using hopeless, place⟩

/-- A report without colours shows the source line behind its number and carets under the columns of
    its span. If the line is in normal form and refused, the report of its error has one caret,
    behind the text that is covered by the tokens in front of the one at which reading is stuck: so
    it is under the first character of this token, or behind the line if this is the end token. -/
theorem renderError_marks_columns [NormalForm] (origin title : String) {line : String}
    (noFeed : '\n' ∉ line.toList) :
    (∀ span : Span, 1 ≤ span.column →
      Marks (renderError false origin line title span) span.line line.toList fun k =>
        span.column ≤ k + 1 ∧ k + 1 ≤ span.column + max span.length 1 - 1) ∧
    (NormalForm.normalize line.toList = line.toList → ∀ e, (readLine line).1 = .error e →
      ∃ front t rest before behind skipped, (tokenizeSource line).1 = front ++ t :: rest ∧
        Viable (front.map Token.kind) ∧ ¬ Viable ((front ++ [t]).map Token.kind) ∧
        line.toList = before ++ t.lexeme.toList ++ behind ∧ Covers .start before front skipped ∧
        (t.kind = .endOfInput → before = line.toList) ∧
        (t.kind ≠ .endOfInput → t.lexeme.toList ≠ []) ∧ e.position = ⟨1, 1 + before.length⟩ ∧
        Marks (renderError false origin line title (.ofSyntaxError e)) 1 line.toList fun k =>
          k = before.length) := by
  refine ⟨fun span => renderError_marks origin title noFeed, fun normal e refused => ?_⟩
  obtain ⟨front, t, rest, whole, viable, hopeless, place⟩ := exists_of_readLine_eq_error refused
  obtain ⟨before, behind, skipped, split, covers, there, atEnd, spelled⟩ :=
    exists_of_tokenize_eq_append whole
  rw [normal] at split atEnd
  have noFeedBefore : '\n' ∉ before := fun feed => noFeed (by simp [split, feed])
  have column : e.position = ⟨1, 1 + before.length⟩ := by
    rw [place, there, Position.behind_of_not_mem noFeedBefore]
  refine ⟨front, t, rest, before, behind, skipped, whole, viable, hopeless, split, covers, atEnd,
    spelled, column, ?_⟩
  rw [Span.ofSyntaxError, column]
  refine (renderError_marks origin title noFeed (Nat.le_add_right 1 _)).congr fun k => ?_
  change 1 + before.length ≤ k + 1 ∧ k + 1 ≤ 1 + before.length + max 1 1 - 1 ↔ k = before.length
  omega

/-- In `SELECT V1 R0 0` the count is missing: the caret stands behind the line. -/
theorem renderError_marks_columns_count :
    '\n' ∉ "SELECT V1 R0 0".toList ∧
      NormalForm.normalize "SELECT V1 R0 0".toList = "SELECT V1 R0 0".toList ∧
      (readLine "SELECT V1 R0 0").1 = .error ⟨.endedEarly .count, ⟨1, 15⟩⟩ ∧
      Marks (renderError false "prog.qasm" "SELECT V1 R0 0" "Expected element count"
        (.single 7 15)) 7 "SELECT V1 R0 0".toList (fun k => 15 ≤ k + 1 ∧ k + 1 ≤ 15) ∧
      Marks (renderError false "prog.qasm" "SELECT V1 R0 0" "Expected element count"
        (.ofSyntaxError ⟨.endedEarly .count, ⟨1, 15⟩⟩)) 1 "SELECT V1 R0 0".toList
          fun k => k = 14 := by
  have noFeed : '\n' ∉ "SELECT V1 R0 0".toList := by decide
  have normal : NormalForm.normalize "SELECT V1 R0 0".toList = "SELECT V1 R0 0".toList := by
    decide +kernel
  have refused : (readLine "SELECT V1 R0 0").1 = .error ⟨.endedEarly .count, ⟨1, 15⟩⟩ := by
    decide +kernel
  obtain ⟨columns, caret⟩ := renderError_marks_columns "prog.qasm" "Expected element count" noFeed
  refine ⟨noFeed, normal, refused, columns (.single 7 15) (by decide), ?_⟩
  obtain ⟨-, -, -, before, -, -, -, -, -, -, -, -, -, column, marks⟩ := caret normal _ refused
  have length : 1 + before.length = 15 := (congrArg Position.column column).symm
  exact marks.congr fun k => by omega

end QuantumAssembler
