import QuantumAssembler.Language.Sentence
import Mathlib.Data.List.ReduceOption

/-!
Module: QuantumAssembler.Proofs.Language.Coverage
Purpose: No character of a text is lost or used twice by its tokens and diagnostics, each of which
  stands at the place of its first character. Handing out the tokens one by one and handing out all
  that are left at once may be mixed freely: what is handed out is the same.
Main exports: Diagnostic.consumed, Covers, covers_tokenize, TokenStream.pending,
  TokenStream.next_spec, TokenStream.calls, TokenStream.calls_spec, TokenStream.drain_spec
-/

namespace QuantumAssembler

/-! ### What tokens and diagnostics take up -/

/-- The stretch of text that a diagnostic rejects. -/
def Diagnostic.consumed (d : Diagnostic) : List Char :=
  match d.fault with
  | .illegalCharacter c => [c]
  | .numberTooLarge literal => literal

/-- The text from the place `p` on is made up, in order and without gaps, of separators, the
    spellings of the tokens and the stretches that the diagnostics reject. -/
inductive Covers : Position → List Char → List Token → List Diagnostic → Prop where
  | done (p : Position) : Covers p [] [] []
  | separator {p : Position} {c : Char} {cs : List Char} {tokens : List Token}
      {diagnostics : List Diagnostic} (blank : c = ' ' ∨ c = '\t' ∨ c = '\r' ∨ c = '\n')
      (rest : Covers (p.after [c]) cs tokens diagnostics) :
      Covers p (c :: cs) tokens diagnostics
  | token {t : Token} {cs : List Char} {tokens : List Token} {diagnostics : List Diagnostic}
      (inner : t.isEnd = false) (spelled : t.lexeme.toList ≠ [])
      (rest : Covers (t.position.after t.lexeme.toList) cs tokens diagnostics) :
      Covers t.position (t.lexeme.toList ++ cs) (t :: tokens) diagnostics
  | diagnostic {d : Diagnostic} {cs : List Char} {tokens : List Token}
      {diagnostics : List Diagnostic}
      (rest : Covers (d.position.after d.consumed) cs tokens diagnostics) :
      Covers d.position (d.consumed ++ cs) tokens (d :: diagnostics)

/-- No token that takes up text is an end token. -/
theorem Covers.isEnd_eq_false {p : Position} {cs : List Char} {tokens : List Token}
    {diagnostics : List Diagnostic} (covers : Covers p cs tokens diagnostics) :
    ∀ t ∈ tokens, t.isEnd = false := by
  induction covers with
  | done => simp
  | separator _ _ ih => exact ih
  | token inner _ _ ih =>
      intro t member
      rcases List.mem_cons.mp member with rfl | member
      · exact inner
      · exact ih t member
  | diagnostic _ ih => exact ih

/-- In front of a token, the text is covered by the tokens before it. -/
theorem Covers.exists_of_eq_append {p : Position} {cs : List Char} {tokens : List Token}
    {diagnostics : List Diagnostic} (covers : Covers p cs tokens diagnostics)
    {front rest : List Token} {t : Token} (whole : tokens = front ++ t :: rest) :
    ∃ before behind skipped, cs = before ++ t.lexeme.toList ++ behind ∧ t.lexeme.toList ≠ [] ∧
      t.position = p.after before ∧ Covers p before front skipped := by
  induction covers generalizing front with
  | done => simp at whole
  | separator blank _ ih =>
      obtain ⟨before, behind, skipped, rfl, spelled, place, inFront⟩ := ih whole
      exact ⟨_ :: before, behind, skipped, rfl, spelled, place, .separator blank inFront⟩
  | token inner some _ ih =>
      cases front with
      | nil =>
          cases whole
          exact ⟨[], _, [], rfl, some, rfl, .done _⟩
      | cons u front =>
          obtain ⟨rfl, others⟩ := List.cons.inj whole
          obtain ⟨before, behind, skipped, rfl, spelled, place, inFront⟩ := ih others
          exact ⟨_ ++ before, behind, skipped, by simp, spelled,
            place.trans (Position.after_append _ _ _).symm, .token inner some inFront⟩
  | @diagnostic d _ _ _ _ ih =>
      obtain ⟨before, behind, skipped, rfl, spelled, place, inFront⟩ := ih whole
      exact ⟨d.consumed ++ before, behind, d :: skipped, by simp, spelled,
        place.trans (Position.after_append _ _ _).symm, .diagnostic inFront⟩

/-- A row of characters is covered by the token that they spell. -/
theorem Covers.lexeme {kind : TokenKind} {spelling : List Char} {p : Position} {cs : List Char}
    {tokens : List Token} {diagnostics : List Diagnostic} (inner : kind ≠ .endOfInput)
    (spelled : spelling ≠ []) (rest : Covers (p.after spelling) cs tokens diagnostics) :
    Covers p (spelling ++ cs) (⟨kind, String.ofList spelling, p⟩ :: tokens) diagnostics := by
  have same : (String.ofList spelling).toList = spelling := String.toList_ofList
  have covers := Covers.token (t := ⟨kind, String.ofList spelling, p⟩)
    (by simpa [Token.isEnd] using inner) (by rwa [same]) (by rwa [same])
  rwa [same] at covers

/-! ### Segments -/

/-- What the division into segments guarantees of each of them. -/
def Segment.Regular : Segment → Prop
  | .blank c => isBlank c = true
  | .lexeme kind spelling => kind ≠ .endOfInput ∧ spelling ≠ []
  | .rejected _ => True

theorem regular_numbered {kind : Nat → TokenKind} (inner : ∀ n, kind n ≠ .endOfInput)
    (digits : List Char) {literal : List Char} (spelled : literal ≠ []) :
    (numbered kind digits literal).Regular := by
  unfold numbered
  split
  · exact ⟨inner _, spelled⟩
  · trivial

theorem regular_wordSegment {word : List Char} (spelled : word ≠ []) :
    (wordSegment word).Regular := by
  unfold wordSegment
  split
  · exact ⟨by simp, spelled⟩
  · split
    · exact regular_numbered (by simp) _ spelled
    · split
      · exact regular_numbered (by simp) _ spelled
      · exact ⟨by simp, spelled⟩

theorem regular_leading (c : Char) (rest : List Char) : (leading c rest).Regular := by
  unfold leading
  split
  · assumption
  · split
    · split
      · exact ⟨by simp, by simp⟩
      · trivial
    · split
      · exact regular_numbered (by simp) _ (by simp)
      · split
        · exact regular_wordSegment (by simp)
        · trivial

theorem regular_of_mem_segments (cs : List Char) :
    ∀ s ∈ segments cs, s.Regular := by
  fun_induction segments cs with
  | case1 => simp
  | case2 c rest ih =>
      intro s member
      rcases List.mem_cons.mp member with rfl | member
      · exact regular_leading c rest
      · exact ih s member

/-- Regular segments in a row cover their text, each with the token or the diagnostic that it gives
    rise to. -/
theorem covers_placed {row : List Segment} (regular : ∀ s ∈ row, s.Regular) (p : Position) :
    Covers p (row.flatMap Segment.text) ((placed p row).filterMap tokenAt?)
      ((placed p row).filterMap diagnosticAt?) := by
  induction row generalizing p with
  | nil => exact .done p
  | cons s row ih =>
      have rest := ih (fun s member => regular s (List.mem_cons_of_mem _ member)) (p.after s.text)
      have first := regular s List.mem_cons_self
      cases s with
      | blank c =>
          refine .separator ?_ rest
          simpa [Segment.Regular, isBlank, or_assoc] using first
      | lexeme kind spelling => exact .lexeme first.1 first.2 rest
      | rejected fault =>
          cases fault with
          | illegalCharacter c => exact .diagnostic (d := ⟨.illegalCharacter c, p⟩) rest
          | numberTooLarge literal => exact .diagnostic (d := ⟨.numberTooLarge literal, p⟩) rest

/-- The segments of a text cover it. -/
theorem covers_segments (cs : List Char) (p : Position) :
    Covers p cs ((placed p (segments cs)).filterMap tokenAt?)
      ((placed p (segments cs)).filterMap diagnosticAt?) := by
  have covers := covers_placed (regular_of_mem_segments cs) p
  rwa [flatMap_text_segments] at covers

/-! ### Handing out tokens -/

namespace TokenStream

/-- The tokens that a stream will hand out. -/
def pending (s : TokenStream) : List Token :=
  if s.finished then [] else s.ahead.filterMap tokenAt? ++ [.atEnd s.finish]

/-- The diagnostics of a stream, those that it will note included. -/
def allDiagnostics (s : TokenStream) : List Diagnostic :=
  if s.finished then s.diagnostics else s.diagnostics ++ s.ahead.filterMap diagnosticAt?

/-- Reading on hands out the first pending token and leaves the others. -/
theorem advance_spec (finish : Position) (noted : List Diagnostic)
    (ahead : List (Position × Segment)) :
    (advance finish noted ahead).1 :: (advance finish noted ahead).2.pending =
        ahead.filterMap tokenAt? ++ [.atEnd finish] ∧
      (advance finish noted ahead).2.allDiagnostics = noted ++ ahead.filterMap diagnosticAt? := by
  fun_induction advance finish noted ahead with
  | case1 noted => simp [pending, allDiagnostics]
  | case2 noted p kind spelling rest =>
      simp [pending, allDiagnostics, List.filterMap_cons, tokenAt?, diagnosticAt?]
  | case3 noted p fault rest ih =>
      simpa [List.filterMap_cons, tokenAt?, diagnosticAt?] using ih
  | case4 noted p c rest ih =>
      simpa [List.filterMap_cons, tokenAt?, diagnosticAt?] using ih

/-- A call hands out the first pending token, if there is one, leaves the others pending and loses
    no diagnostic. A stream without pending tokens stays as it is. -/
theorem next_spec (s : TokenStream) :
    (s.pending = [] ∧ s.next = (none, s)) ∨
      ∃ t after, s.pending = t :: after.pending ∧ s.next = (some t, after) ∧
        after.allDiagnostics = s.allDiagnostics := by
  cases ended : s.finished with
  | true => exact .inl ⟨by simp [pending, ended], by simp [next, ended]⟩
  | false =>
      obtain ⟨tokens, diagnostics⟩ := advance_spec s.finish s.diagnostics s.ahead
      refine .inr ⟨(advance s.finish s.diagnostics s.ahead).1,
        (advance s.finish s.diagnostics s.ahead).2, ?_, ?_, ?_⟩
      · simpa [pending, ended] using tokens.symm
      · simp [next, ended]
      · simpa [allDiagnostics, ended] using diagnostics

/-- The answers of `k` calls in a row, and the stream that they leave. -/
def calls : Nat → TokenStream → List (Option Token) × TokenStream
  | 0, s => ([], s)
  | k + 1, s =>
    let (answer, after) := s.next
    let (answers, last) := after.calls k
    (answer :: answers, last)

/-- Calls hand out the pending tokens one after the other, and nothing when none is left. -/
theorem calls_spec (k : Nat) (s : TokenStream) :
    (s.calls k).1 = (s.pending.map some).take k ++ List.replicate (k - s.pending.length) none ∧
      (s.calls k).2.pending = s.pending.drop k ∧
      (s.calls k).2.allDiagnostics = s.allDiagnostics := by
  induction k generalizing s with
  | zero => simp [calls]
  | succ k ih =>
      rcases s.next_spec with ⟨none, step⟩ | ⟨t, after, some, step, diagnostics⟩
      · obtain ⟨answers, pending, diagnostics⟩ := ih s
        simp only [calls, step, none] at *
        refine ⟨?_, by simpa using pending, diagnostics⟩
        simpa [List.replicate_succ] using answers
      · obtain ⟨answers, pending, diagnostics'⟩ := ih after
        simp only [calls, step, some]
        refine ⟨?_, ?_, diagnostics'.trans diagnostics⟩
        · simpa using answers
        · simpa using pending

/-- A stream without pending tokens has noted every diagnostic. -/
theorem diagnostics_of_pending_eq_nil (s : TokenStream) (none : s.pending = []) :
    s.diagnostics = s.allDiagnostics := by
  unfold pending at none
  split at none
  · rename_i ended
    simp [allDiagnostics, ended]
  · simp at none

/-- Draining hands out all pending tokens, and then every diagnostic is noted. -/
theorem drain_spec (s : TokenStream) :
    s.drain.1 = s.pending ∧ s.drain.2.diagnostics = s.allDiagnostics := by
  fun_induction drain s with
  | case1 s after step =>
      rcases s.next_spec with ⟨none, same⟩ | ⟨t, other, -, some, -⟩
      · obtain ⟨-, rfl⟩ := Prod.mk.inj (step.symm.trans same)
        exact ⟨none.symm, diagnostics_of_pending_eq_nil _ none⟩
      · cases step.symm.trans some
  | case2 s t after step others exhausted rest ih =>
      rcases s.next_spec with ⟨-, same⟩ | ⟨u, other, pending, some, diagnostics⟩
      · cases step.symm.trans same
      · cases step.symm.trans some
        rw [rest] at ih
        exact ⟨by rw [pending, ← ih.1], ih.2.trans diagnostics⟩

end TokenStream

/-! ### Source texts -/

/-- The tokens and diagnostics of a text are what its fresh stream has pending and will note. -/
theorem tokenize_eq_pending (cs : List Char) :
    tokenize cs = ((TokenStream.ofText cs).pending, (TokenStream.ofText cs).allDiagnostics) := by
  obtain ⟨tokens, diagnostics⟩ := (TokenStream.ofText cs).drain_spec
  rw [← tokens, ← diagnostics]
  rfl

/-- The tokens of a text but the last, and its diagnostics, cover the text. The last is an end token
    behind the text. -/
theorem covers_tokenize (cs : List Char) :
    ∃ inner, (tokenize cs).1 = inner ++ [.atEnd (Position.start.after cs)] ∧
      Covers .start cs inner (tokenize cs).2 := by
  refine ⟨(placed .start (segments cs)).filterMap tokenAt?, ?_, ?_⟩
  · simp [tokenize_eq_pending, TokenStream.pending, TokenStream.ofText]
  · simpa [tokenize_eq_pending, TokenStream.allDiagnostics, TokenStream.ofText] using
      covers_segments cs .start

/-- Up to normal form, the tokens of a source and its diagnostics use up every character once. One
    token is an end token, the last. Any number of calls hands out the tokens in order and nothing
    for ever after the end token; draining what is then left completes the tokens and the
    diagnostics. -/
theorem tokenizeSource_covers_source [NormalForm] (source : String) :
    (∃ inner e, (tokenizeSource source).1 = inner ++ [e] ∧ e.isEnd = true ∧
      (∀ t ∈ inner, t.isEnd = false) ∧
      Covers .start (NormalForm.normalize source.toList) inner (tokenizeSource source).2) ∧
    ∀ k, ∃ answers s,
      (TokenStream.ofText (NormalForm.normalize source.toList)).calls k = (answers, s) ∧
      answers = ((tokenizeSource source).1.map some).take k ++
        List.replicate (k - (tokenizeSource source).1.length) none ∧
      answers.reduceOption ++ s.drain.1 = (tokenizeSource source).1 ∧
      s.drain.2.diagnostics = (tokenizeSource source).2 := by
  constructor
  · obtain ⟨inner, tokens, covers⟩ := covers_tokenize (NormalForm.normalize source.toList)
    exact ⟨inner, _, tokens, rfl, covers.isEnd_eq_false, covers⟩
  · intro k
    have whole : tokenizeSource source = _ := tokenize_eq_pending _
    rw [whole]
    generalize TokenStream.ofText (NormalForm.normalize source.toList) = fresh
    obtain ⟨answers, pending, diagnostics⟩ := fresh.calls_spec k
    obtain ⟨drained, noted⟩ := (fresh.calls k).2.drain_spec
    refine ⟨_, _, rfl, answers, ?_, noted.trans diagnostics⟩
    have handed : ((fresh.pending.map some).take k).reduceOption = fresh.pending.take k := by
      rw [← List.map_take]
      simp [List.reduceOption]
    rw [answers, List.reduceOption_append, List.reduceOption_replicate_none, handed, drained,
      pending, List.append_nil, List.take_append_drop]

end QuantumAssembler
