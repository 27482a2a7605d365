import QuantumAssembler.Proofs.Language.Division
import QuantumAssembler.Proofs.Text.Lines
import QuantumAssembler.Proofs.Unicode.Normalization

/-!
Module: QuantumAssembler.Proofs.Language.LineByLine
Purpose: A source gives the same tokens and diagnostics whether it is read as a whole or line by
  line, for every normal form that acts on each line on its own. Line ends are blanks, so they cut
  the division of a text, and behind a line feed columns are counted as in a text of its own.
Main exports: Position.onLine, Token.onLine, Diagnostic.onLine, innerTokens, solid,
  solid_append_cons, solid_onLine, solid_normalize_lines, tokenizeSource_line_by_line
-/

namespace QuantumAssembler

/-! ### Lines of places -/

namespace Position

/-- The place in the same column of line `n`. -/
def onLine (n : Nat) (p : Position) : Position :=
  { p with line := n }

/-- Over a text without line feeds, one stays in the line, whichever it is. -/
theorem after_onLine {cs : List Char} (noFeed : '\n' ∉ cs) (n : Nat) (p : Position) :
    (p.onLine n).after cs = (p.after cs).onLine n := by
  induction cs generalizing p with
  | nil => rfl
  | cons c rest ih =>
      obtain ⟨other, others⟩ := not_or.mp (List.mem_cons.not.mp noFeed)
      have step : (p.onLine n).next c = (p.next c).onLine n := by
        simp [next, onLine, Ne.symm other]
      rw [after_cons, after_cons, step, ih others]

theorem line_after {cs : List Char} (noFeed : '\n' ∉ cs) (p : Position) :
    (p.after cs).line = p.line := by
  have stays : p.after cs = (p.after cs).onLine p.line := after_onLine noFeed p.line p
  rw [stays]
  rfl

end Position

/-- The token as it stands in line `n`. -/
def Token.onLine (n : Nat) (t : Token) : Token :=
  { t with position := t.position.onLine n }

/-- The diagnostic as it stands in line `n`. -/
def Diagnostic.onLine (n : Nat) (d : Diagnostic) : Diagnostic :=
  { d with position := d.position.onLine n }

/-- The tokens of a list but its end tokens. -/
def innerTokens (tokens : List Token) : List Token :=
  tokens.filter fun t => !t.isEnd

/-! ### Segments that count -/

/-- Whether a segment is more than a separator. -/
def Segment.isSolid : Segment → Bool
  | .blank _ => false
  | _ => true

/-- The segments of a text that begins at `p` with their places, the separators left out. -/
def solid (p : Position) (cs : List Char) : List (Position × Segment) :=
  (placed p (segments cs)).filter fun found => found.2.isSolid

@[simp] theorem solid_nil (p : Position) : solid p [] = [] := by
  simp [solid, segments, placed]

/-- A blank takes part in nothing but the counting of places. -/
theorem solid_append_cons {b : Char} (blank : isBlank b = true) (p : Position)
    (before behind : List Char) :
    solid p (before ++ b :: behind) =
      solid p before ++ solid ((p.after before).next b) behind := by
  rw [solid, segments_append_cons blank, placed_append, flatMap_text_segments, placed,
    List.filter_append, List.filter_cons_of_neg (by simp [Segment.isSolid])]
  rfl

theorem solid_cons {b : Char} (blank : isBlank b = true) (p : Position) (behind : List Char) :
    solid p (b :: behind) = solid (p.next b) behind := by
  simpa using solid_append_cons blank p [] behind

/-- In a text without line feeds, all that counts stands in the line in which the text begins. -/
theorem solid_onLine {cs : List Char} (noFeed : '\n' ∉ cs) (n : Nat) (p : Position) :
    solid (p.onLine n) cs = (solid p cs).map (Prod.map (Position.onLine n) id) := by
  have rows : ∀ row : List Segment, '\n' ∉ row.flatMap Segment.text → ∀ q : Position,
      placed (q.onLine n) row = (placed q row).map (Prod.map (Position.onLine n) id) := by
    intro row noFeed
    induction row with
    | nil => exact fun _ => rfl
    | cons s rest ih =>
        rw [List.flatMap_cons, List.mem_append, not_or] at noFeed
        intro q
        rw [placed, placed, Position.after_onLine noFeed.1, ih noFeed.2]
        rfl
  rw [solid, rows _ (by rwa [flatMap_text_segments]), List.filter_map]
  rfl

/-- What counts in a normalized text is what counts in each of its lines, which are normalized each
    on its own. -/
theorem solid_normalize_lines [NormalForm] (acts : NormalForm.ActsOnLines) (n : Nat)
    (cs : List Char) :
    solid ⟨n, 1⟩ (NormalForm.normalize cs) =
      ((Text.lines cs).zipIdx n).flatMap fun (line, k) =>
        (solid .start (NormalForm.normalize line)).map (Prod.map (Position.onLine k) id) := by
  generalize split : Text.lines cs = row
  induction row generalizing cs n with
  | nil =>
      obtain rfl := Text.lines_eq_nil_iff.mp split
      rw [acts.nil]
      exact solid_nil _
  | cons line others ih =>
      have noFeed : '\n' ∉ NormalForm.normalize line := fun member =>
        Text.newline_not_mem_of_mem_lines (split ▸ List.mem_cons_self)
          (acts.newline_mem _ member)
      have first : solid ⟨n, 1⟩ (NormalForm.normalize line) =
          (solid .start (NormalForm.normalize line)).map (Prod.map (Position.onLine n) id) :=
        solid_onLine noFeed n .start
      -- Wherever in the line it stands, the line feed leads to the start of the next one.
      have next : ∀ p : Position, p.line = n → p.next '\n' = ⟨n + 1, 1⟩ := by
        intro p inLine
        rw [← inLine]
        rfl
      have stops := Position.line_after noFeed ⟨n, 1⟩
      obtain ⟨ending, behind, rfl, lined, shape⟩ := Text.exists_of_lines_eq_cons split
      rw [List.zipIdx_cons, List.flatMap_cons, ← ih (n + 1) behind lined]
      simp only [← first]
      rcases shape with rfl | rfl | ⟨rfl, rfl⟩
      · rw [List.append_assoc, List.singleton_append, acts.append_cons _ (.inl rfl),
          solid_append_cons rfl, next _ stops]
      · have feed := acts.append_cons '\n' (.inl rfl) [] behind
        rw [List.nil_append, acts.nil, List.nil_append] at feed
        rw [List.append_assoc, List.cons_append, List.singleton_append,
          acts.append_cons _ (.inr rfl), feed, solid_append_cons rfl, solid_cons rfl,
          next (Position.next _ '\r') stops]
      · rw [List.append_nil, List.append_nil, acts.nil, solid_nil, List.append_nil]

/-! ### Tokens and diagnostics -/

/-- The inner tokens of a text and its diagnostics come from the segments that count. -/
theorem tokenize_eq_solid (cs : List Char) :
    innerTokens (tokenize cs).1 = (solid .start cs).filterMap tokenAt? ∧
      (tokenize cs).2 = (solid .start cs).filterMap diagnosticAt? := by
  have kept : ∀ {α : Type} (f : Position × Segment → Option α),
      (∀ p c, f (p, .blank c) = none) →
      (solid .start cs).filterMap f = (placed .start (segments cs)).filterMap f := by
    intro α f separators
    rw [solid, List.filterMap_filter]
    refine List.filterMap_congr fun found _ => ?_
    obtain ⟨p, s⟩ := found
    cases s with
    | blank c => simp [Segment.isSolid, separators]
    | lexeme | rejected => rfl
  have inner : ∀ t ∈ (placed .start (segments cs)).filterMap tokenAt?, (!t.isEnd) = true := by
    intro t member
    simp [(covers_segments cs .start).isEnd_eq_false t member]
  rw [kept tokenAt? fun _ _ => rfl, kept diagnosticAt? fun _ _ => rfl, tokenize_eq_placed]
  refine ⟨?_, rfl⟩
  rw [innerTokens, List.filter_append, List.filter_eq_self.mpr inner]
  exact List.append_nil _

/-- What is drawn from the segments that count is drawn line by line. -/
theorem filterMap_solid_linesOf [NormalForm] (acts : NormalForm.ActsOnLines) {α : Type}
    (f : Position × Segment → Option α) (move : Nat → α → α)
    (moves : ∀ n p s, f (Position.onLine n p, s) = (f (p, s)).map (move n)) (source : String) :
    (solid .start (NormalForm.normalize source.toList)).filterMap f =
      ((Text.linesOf source).zipIdx 1).flatMap fun (line, n) =>
        ((solid .start (NormalForm.normalize line.toList)).filterMap f).map (move n) := by
  rw [Text.linesOf, List.zipIdx_map, List.flatMap_map]
  refine (congrArg (List.filterMap f) (solid_normalize_lines acts 1 source.toList)).trans ?_
  rw [List.filterMap_flatMap]
  refine List.flatMap_congr fun numbered _ => ?_
  obtain ⟨line, n⟩ := numbered
  have drawn : ∀ found : Position × Segment,
      f (Prod.map (Position.onLine n) id found) = (f found).map (move n) :=
    fun found => moves n found.1 found.2
  simp [List.filterMap_map, List.map_filterMap, drawn]

/-- The inner tokens of a source are those of its lines, each line read on its own, with the line
    number in the place of the token. The same is true of the diagnostics. -/
theorem tokenizeSource_line_by_line [NormalForm] (acts : NormalForm.ActsOnLines)
    (source : String) :
    innerTokens (tokenizeSource source).1 =
        ((Text.linesOf source).zipIdx 1).flatMap (fun (line, n) =>
          (innerTokens (tokenizeSource line).1).map (Token.onLine n)) ∧
      (tokenizeSource source).2 =
        ((Text.linesOf source).zipIdx 1).flatMap (fun (line, n) =>
          (tokenizeSource line).2.map (Diagnostic.onLine n)) := by
  have tokenMoves : ∀ n p s,
      tokenAt? (Position.onLine n p, s) = (tokenAt? (p, s)).map (Token.onLine n) := by
    intro n p s
    cases s <;> rfl
  have diagnosticMoves : ∀ n p s,
      diagnosticAt? (Position.onLine n p, s) =
        (diagnosticAt? (p, s)).map (Diagnostic.onLine n) := by
    intro n p s
    cases s <;> rfl
  simp only [tokenizeSource, tokenize_eq_solid]
  exact ⟨filterMap_solid_linesOf acts tokenAt? Token.onLine tokenMoves source,
    filterMap_solid_linesOf acts diagnosticAt? Diagnostic.onLine diagnosticMoves source⟩

/-- A bracket that is left open in the first of two lines is rejected there, and does not reach into
    the second one. -/
theorem tokenizeSource_line_by_line_bracket :
    NormalForm.ActsOnLines ∧ Text.linesOf "INITIALIZE R0 [1\r\n0]" = ["INITIALIZE R0 [1", "0]"] ∧
      innerTokens (tokenizeSource "INITIALIZE R0 [1\r\n0]").1 =
        (innerTokens (tokenizeSource "INITIALIZE R0 [1").1).map (Token.onLine 1) ++
          (innerTokens (tokenizeSource "0]").1).map (Token.onLine 2) ∧
      (tokenizeSource "INITIALIZE R0 [1\r\n0]").2 =
        [⟨.illegalCharacter '[', ⟨1, 15⟩⟩, ⟨.illegalCharacter ']', ⟨2, 2⟩⟩] := by
  have split : Text.linesOf "INITIALIZE R0 [1\r\n0]" = ["INITIALIZE R0 [1", "0]"] := by
    decide +kernel
  have first : (tokenizeSource "INITIALIZE R0 [1").2 = [⟨.illegalCharacter '[', ⟨1, 15⟩⟩] := by
    decide +kernel
  have second : (tokenizeSource "0]").2 = [⟨.illegalCharacter ']', ⟨1, 2⟩⟩] := by
    decide +kernel
  obtain ⟨tokens, diagnostics⟩ :=
    tokenizeSource_line_by_line Unicode.actsOnLines "INITIALIZE R0 [1\r\n0]"
  rw [split] at tokens diagnostics
  refine ⟨Unicode.actsOnLines, split, by simpa using tokens, ?_⟩
  simpa [first, second, Diagnostic.onLine, Position.onLine] using diagnostics

end QuantumAssembler
