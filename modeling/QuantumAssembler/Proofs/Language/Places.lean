import QuantumAssembler.Proofs.Language.LineByLine
import QuantumAssembler.Proofs.Text.Position

/-!
Module: QuantumAssembler.Proofs.Language.Places
Purpose: Tokens and diagnostics stand where their first characters stand. What is found in a text is
  listed in one row, tokens and rejected stretches alike; what stands in front of each finding is
  made up of the findings before it, and its place is told by the line feeds and the characters
  there. So places increase from finding to finding, and a diagnostic names the line of the source
  that holds the characters at fault.
Main exports: Finding, findings, exists_of_findings_eq_append, isChain_placed,
  pairwise_position_findings, exists_line_of_mem_diagnostics, tokenizeSource_places_exact
-/

namespace QuantumAssembler

/-! ### Findings -/

/-- What is found in a text besides separators. -/
inductive Finding where
  | token (t : Token)
  | diagnostic (d : Diagnostic)

namespace Finding

/-- The place at which something is found. -/
def position : Finding → Position
  | token t => t.position
  | diagnostic d => d.position

/-- The characters of a finding. -/
def text : Finding → List Char
  | token t => t.lexeme.toList
  | diagnostic d => d.consumed

/-- The token that is found, if it is one. -/
def token? : Finding → Option Token
  | token t => some t
  | diagnostic _ => none

/-- The diagnostic that is found, if it is one. -/
def diagnostic? : Finding → Option Diagnostic
  | token _ => none
  | diagnostic d => some d

/-- What a placed segment is found as. -/
def ofPlaced? : Position × Segment → Option Finding
  | (_, .blank _) => none
  | (p, .lexeme kind spelling) => some (.token ⟨kind, String.ofList spelling, p⟩)
  | (p, .rejected fault) => some (.diagnostic ⟨fault, p⟩)

theorem ofPlaced?_bind_token? (found : Position × Segment) :
    (ofPlaced? found).bind token? = tokenAt? found := by
  obtain ⟨p, s⟩ := found
  cases s <;> rfl

theorem ofPlaced?_bind_diagnostic? (found : Position × Segment) :
    (ofPlaced? found).bind diagnostic? = diagnosticAt? found := by
  obtain ⟨p, s⟩ := found
  cases s <;> rfl

/-- A finding has the place and the characters of its segment. -/
theorem of_ofPlaced? {p : Position} {s : Segment} {x : Finding} (found : ofPlaced? (p, s) = some x) :
    x.position = p ∧ x.text = s.text := by
  cases s with
  | blank c => cases found
  | lexeme kind spelling =>
      cases found
      exact ⟨rfl, String.toList_ofList⟩
  | rejected fault =>
      cases found
      cases fault <;> exact ⟨rfl, rfl⟩

end Finding

/-- What is found in a text, in order. -/
def findings (cs : List Char) : List Finding :=
  (placed .start (segments cs)).filterMap Finding.ofPlaced?

/-- The tokens of placed segments are those found in them. -/
theorem filterMap_token?_placed (row : List (Position × Segment)) :
    (row.filterMap Finding.ofPlaced?).filterMap Finding.token? = row.filterMap tokenAt? := by
  rw [List.filterMap_filterMap]
  exact List.filterMap_congr fun found _ => Finding.ofPlaced?_bind_token? found

theorem filterMap_diagnostic?_placed (row : List (Position × Segment)) :
    (row.filterMap Finding.ofPlaced?).filterMap Finding.diagnostic? =
      row.filterMap diagnosticAt? := by
  rw [List.filterMap_filterMap]
  exact List.filterMap_congr fun found _ => Finding.ofPlaced?_bind_diagnostic? found

/-! ### What stands in front of a finding -/

theorem text_ne_nil_of_mem_segments {cs : List Char} {s : Segment} (member : s ∈ segments cs) :
    s.text ≠ [] := by
  fun_induction segments cs with
  | case1 => cases member
  | case2 c rest ih =>
      rcases List.mem_cons.mp member with rfl | later
      · obtain ⟨spelling, -, covers, -⟩ := leading_text c rest
        simp [covers]
      · exact ih later

/-- A placed segment stands behind the text of the segments in front of it. -/
theorem exists_of_placed_eq_append {p q : Position} {s : Segment} {row : List Segment}
    {first second : List (Position × Segment)} (whole : placed p row = first ++ (q, s) :: second) :
    ∃ front rest, row = front ++ s :: rest ∧ first = placed p front ∧
      q = p.after (front.flatMap Segment.text) := by
  induction first generalizing p row with
  | nil =>
      cases row with
      | nil => cases whole
      | cons t row =>
          cases whole
          exact ⟨[], row, rfl, rfl, rfl⟩
  | cons found first ih =>
      cases row with
      | nil => cases whole
      | cons t row =>
          obtain ⟨rfl, others⟩ := List.cons.inj whole
          obtain ⟨front, rest, rfl, rfl, place⟩ := ih others
          exact ⟨t :: front, rest, rfl, rfl, by simpa using place⟩

/-- In front of a finding, the text is made up of the findings before it and of separators. -/
theorem exists_of_findings_eq_append {cs : List Char} {front rest : List Finding} {x : Finding}
    (whole : findings cs = front ++ x :: rest) :
    ∃ before behind, cs = before ++ x.text ++ behind ∧ x.text ≠ [] ∧
      x.position = .behind before ∧
      Covers .start before (front.filterMap Finding.token?)
        (front.filterMap Finding.diagnostic?) := by
  obtain ⟨first, others, split, rfl, later⟩ := List.filterMap_eq_append_iff.mp whole
  obtain ⟨blanks, ⟨q, s⟩, last, rfl, none, found, -⟩ := List.filterMap_eq_cons_iff.mp later
  rw [← List.append_assoc] at split
  obtain ⟨inFront, inRest, row, placedFront, rfl⟩ := exists_of_placed_eq_append split
  obtain ⟨place, text⟩ := Finding.of_ofPlaced? found
  have separators : (placed .start inFront).filterMap Finding.ofPlaced? =
      first.filterMap Finding.ofPlaced? := by
    rw [← placedFront, List.filterMap_append, List.filterMap_eq_nil_iff.mpr none, List.append_nil]
  have regular : ∀ t ∈ inFront, t.Regular := fun t member =>
    regular_of_mem_segments cs t (row ▸ List.mem_append_left _ member)
  refine ⟨inFront.flatMap Segment.text, inRest.flatMap Segment.text, ?_, ?_, ?_, ?_⟩
  · rw [text, ← flatMap_text_segments cs, row]
    simp
  · rw [text]
    exact text_ne_nil_of_mem_segments (row ▸ List.mem_append_right _ List.mem_cons_self)
  · rw [place, Position.after_start]
  · have covers := covers_placed regular .start
    rwa [← filterMap_token?_placed, ← filterMap_diagnostic?_placed, separators] at covers

/-! ### The order of places -/

/-- Each segment is placed behind the one in front of it, and the text ends behind the last. -/
theorem isChain_placed {row : List Segment} (spelled : ∀ s ∈ row, s.text ≠ []) (p : Position) :
    ((placed p row).map Prod.fst ++ [p.after (row.flatMap Segment.text)]).IsChain
      Position.Before := by
  induction row generalizing p with
  | nil => exact .singleton _
  | cons s row ih =>
      have rest := ih (fun t member => spelled t (List.mem_cons_of_mem s member)) (p.after s.text)
      rw [List.flatMap_cons, Position.after_append]
      refine List.isChain_cons.mpr ⟨?_, rest⟩
      intro q first
      have next : p.Before (p.after s.text) := Position.before_after (spelled s List.mem_cons_self) p
      cases row <;> cases first <;> exact next

/-- The places of findings are among those of the segments, in the same order. -/
theorem map_position_sublist (row : List (Position × Segment)) :
    ((row.filterMap Finding.ofPlaced?).map Finding.position).Sublist (row.map Prod.fst) := by
  induction row with
  | nil => exact .slnil
  | cons found row ih =>
      rw [List.map_cons]
      cases split : Finding.ofPlaced? found with
      | none =>
          rw [List.filterMap_cons_none split]
          exact .cons _ ih
      | some x =>
          rw [List.filterMap_cons_some split, List.map_cons, (Finding.of_ofPlaced? split).1]
          exact .cons_cons _ ih

/-- Places increase from finding to finding, and the end of the text is behind them all. -/
theorem pairwise_position_findings (cs : List Char) :
    ((findings cs).map Finding.position ++ [Position.behind cs]).Pairwise Position.Before := by
  have chain := isChain_placed (fun _ => @text_ne_nil_of_mem_segments cs _) .start
  rw [flatMap_text_segments, Position.after_start] at chain
  exact (List.isChain_iff_pairwise.mp chain).sublist
    ((map_position_sublist (placed .start (segments cs))).append_right _)

/-! ### Tokens and diagnostics of sources -/

/-- The tokens of a text but the end token, and its diagnostics, are its findings. -/
theorem tokenize_eq_findings (cs : List Char) :
    tokenize cs =
      ((findings cs).filterMap Finding.token? ++ [.atEnd (.behind cs)],
        (findings cs).filterMap Finding.diagnostic?) := by
  rw [tokenize_eq_placed, findings, filterMap_token?_placed, filterMap_diagnostic?_placed,
    Position.after_start]

/-- A rejected stretch stands where its diagnostic says. -/
theorem exists_of_mem_diagnostics {cs : List Char} {d : Diagnostic} (member : d ∈ (tokenize cs).2) :
    ∃ before behind, cs = before ++ d.consumed ++ behind ∧ d.position = .behind before := by
  rw [tokenize_eq_findings] at member
  obtain ⟨x, found, same⟩ := List.mem_filterMap.mp member
  obtain ⟨front, rest, whole⟩ := List.append_of_mem found
  obtain ⟨before, behind, split, -, place, -⟩ := exists_of_findings_eq_append whole
  cases x with
  | token t => cases same
  | diagnostic other =>
      cases same
      exact ⟨before, behind, split, place⟩

theorem newline_not_mem_of_mem_linesOf {source line : String} (member : line ∈ Text.linesOf source) :
    '\n' ∉ line.toList := by
  obtain ⟨cs, found, rfl⟩ := List.mem_map.mp member
  rw [String.toList_ofList]
  exact Text.newline_not_mem_of_mem_lines found

/-- The line of a source that a diagnostic names exists, and brought into normal form it holds the
    rejected stretch in the column that the diagnostic names. -/
theorem exists_line_of_mem_diagnostics [NormalForm] (acts : NormalForm.ActsOnLines)
    {source : String} {d : Diagnostic} (member : d ∈ (tokenizeSource source).2) :
    ∃ line, (Text.linesOf source)[d.position.line - 1]? = some line ∧
      ∃ before behind, NormalForm.normalize line.toList = before ++ d.consumed ++ behind ∧
        d.position.column = 1 + before.length := by
  have moves : ∀ n p s,
      diagnosticAt? (Position.onLine n p, s) =
        (diagnosticAt? (p, s)).map (Diagnostic.onLine n) := by
    intro n p s
    cases s <;> rfl
  rw [tokenizeSource, (tokenize_eq_solid _).2,
    filterMap_solid_linesOf acts diagnosticAt? Diagnostic.onLine moves] at member
  obtain ⟨⟨line, n⟩, numbered, moved⟩ := List.mem_flatMap.mp member
  obtain ⟨inLine, found, rfl⟩ := List.mem_map.mp moved
  rw [← (tokenize_eq_solid _).2] at found
  obtain ⟨before, behind, split, place⟩ := exists_of_mem_diagnostics found
  have noFeed : '\n' ∉ before := by
    intro feed
    have kept : '\n' ∈ NormalForm.normalize line.toList := by simp [split, feed]
    exact newline_not_mem_of_mem_linesOf (List.fst_mem_of_mem_zipIdx numbered)
      (acts.newline_mem _ kept)
  obtain ⟨low, high, same⟩ := List.mem_zipIdx numbered
  refine ⟨line, ?_, before, behind, split, ?_⟩
  · rw [same]
    exact List.getElem?_eq_getElem _
  · change inLine.position.column = _
    rw [place, Position.behind_of_not_mem noFeed]

/-- All that is found in a source stands where its first character stands in the normal form of the
    source: it is told by the text in front of it, which is made up of the findings before it and of
    separators. Places increase from finding to finding; the end token stands behind the whole text.
    If the normal form acts on each line on its own, a diagnostic names the line of the source that
    holds the stretch at fault. -/
theorem tokenizeSource_places_exact [NormalForm] (source : String) :
    ∃ found e, (tokenizeSource source).1 = found.filterMap Finding.token? ++ [e] ∧
      (tokenizeSource source).2 = found.filterMap Finding.diagnostic? ∧
      (∀ front x rest, found = front ++ x :: rest →
        ∃ before behind, NormalForm.normalize source.toList = before ++ x.text ++ behind ∧
          x.text ≠ [] ∧ x.position = .behind before ∧
          Covers .start before (front.filterMap Finding.token?)
            (front.filterMap Finding.diagnostic?)) ∧
      e.isEnd = true ∧ e.position = .behind (NormalForm.normalize source.toList) ∧
      (found.map Finding.position ++ [e.position]).Pairwise Position.Before ∧
      (NormalForm.ActsOnLines → ∀ d ∈ (tokenizeSource source).2,
        ∃ line, (Text.linesOf source)[d.position.line - 1]? = some line ∧
          ∃ before behind, NormalForm.normalize line.toList = before ++ d.consumed ++ behind ∧
            d.position.column = 1 + before.length) := by
  have whole := tokenize_eq_findings (NormalForm.normalize source.toList)
  refine ⟨findings (NormalForm.normalize source.toList), _, congrArg Prod.fst whole,
    congrArg Prod.snd whole, ?_, rfl, rfl, pairwise_position_findings _, ?_⟩
  · intro front x rest split
    exact exists_of_findings_eq_append split
  · intro acts d member
    exact exists_line_of_mem_diagnostics acts member

/-- The bracket that opens no bit-string, in the second line of a source. -/
theorem tokenizeSource_places_exact_bracket :
    NormalForm.ActsOnLines ∧
      (⟨.illegalCharacter '[', ⟨2, 2⟩⟩ : Diagnostic) ∈ (tokenizeSource "R0 ?\r\n [1").2 ∧
      ∃ line, (Text.linesOf "R0 ?\r\n [1")[1]? = some line ∧
        ∃ before behind, NormalForm.normalize line.toList = before ++ ['['] ++ behind ∧
          2 = 1 + before.length := by
  have member : (⟨.illegalCharacter '[', ⟨2, 2⟩⟩ : Diagnostic) ∈
      (tokenizeSource "R0 ?\r\n [1").2 := by
    decide +kernel
  obtain ⟨_, _, _, _, _, _, _, _, lines⟩ := tokenizeSource_places_exact "R0 ?\r\n [1"
  exact ⟨Unicode.actsOnLines, member, lines Unicode.actsOnLines _ member⟩

end QuantumAssembler
