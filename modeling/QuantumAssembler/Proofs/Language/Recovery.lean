import QuantumAssembler.Proofs.Language.Lexemes
import QuantumAssembler.Proofs.Text.Position

/-!
Module: QuantumAssembler.Proofs.Language.Recovery
Purpose: Reading goes on behind an illegal character as it does behind a blank. With blanks in place
  of its illegal characters, a text is munched in the same steps: no lexeme reaches over such a
  character, and none goes on because a blank stands there. So the tokens stay where they are and no
  new diagnostic comes up. All that is left is of ASCII characters, and so in normal form.
Main exports: Diagnostic.isIllegal, cleared, cleared_append_of_spared, Lexes.of_head,
  Munches.clear, clearedSource, tokenizeSource_clearedSource
-/

namespace QuantumAssembler

/-! ### Clearing -/

/-- Whether a diagnostic is about an illegal character. -/
def Diagnostic.isIllegal (d : Diagnostic) : Bool :=
  match d.fault with
  | .illegalCharacter _ => true
  | .numberTooLarge _ => false

/-- The text from the place `p` on, with a blank for each character that is reported as illegal at
    its place. -/
def cleared (reported : List Diagnostic) (p : Position) : List Char → List Char
  | [] => []
  | c :: cs =>
    (if ⟨.illegalCharacter c, p⟩ ∈ reported then ' ' else c) :: cleared reported (p.next c) cs

/-- A stretch in which nothing is reported as illegal is kept. -/
theorem cleared_append_of_spared {reported : List Diagnostic} {p : Position}
    {run behind : List Char}
    (spared : ∀ c q, ⟨.illegalCharacter c, q⟩ ∈ reported → q.Before p ∨ ¬ q.Before (p.after run)) :
    cleared reported p (run ++ behind) = run ++ cleared reported (p.after run) behind := by
  induction run generalizing p with
  | nil => rfl
  | cons c run ih =>
      have kept : ⟨.illegalCharacter c, p⟩ ∉ reported := by
        intro member
        rcases spared c p member with early | late
        · exact Position.Before.irrefl p early
        · exact late (Position.before_after (List.cons_ne_nil c run) p)
      have others := @ih (p.next c) fun d q member =>
        (spared d q member).imp (fun early => early.trans (p.before_next c)) id
      rw [List.cons_append, cleared, if_neg kept, others]
      rfl

/-- Unless line feeds are reported as illegal, a text ends at the same place when it is cleared. -/
theorem after_cleared {reported : List Diagnostic}
    (feeds : ∀ q, ⟨.illegalCharacter '\n', q⟩ ∉ reported) (p : Position) (cs : List Char) :
    p.after (cleared reported p cs) = p.after cs := by
  induction cs generalizing p with
  | nil => rfl
  | cons c cs ih =>
      have step : p.next (if ⟨.illegalCharacter c, p⟩ ∈ reported then ' ' else c) = p.next c := by
        split
        · rename_i illegal
          exact Position.next_of_ne (by decide) (fun feed => feeds p (feed ▸ illegal)) p
        · rfl
      rw [cleared, Position.after_cons, step, ih, Position.after_cons]

/-- A cleared text begins with a blank or as before. -/
theorem head_cleared (reported : List Diagnostic) (p : Position) (cs : List Char) :
    ∀ c ∈ (cleared reported p cs).head?, c = ' ' ∨ c ∈ cs.head? := by
  cases cs with
  | nil => simp [cleared]
  | cons d cs =>
      intro c first
      obtain rfl := Option.some.inj first
      by_cases illegal : ⟨.illegalCharacter d, p⟩ ∈ reported
      · exact .inl (if_pos illegal)
      · exact .inr (congrArg some (if_neg illegal).symm)

/-! ### Lexemes in a cleared text -/

/-- In front of a blank, a lexeme goes on no farther than in front of any other character. -/
theorem Lexes.of_head {run behind other : List Char} {meaning : Option TokenKind}
    (lexeme : Lexes run behind meaning) (head : ∀ c ∈ other.head?, c = ' ' ∨ c ∈ behind.head?) :
    Lexes run other meaning := by
  cases lexeme with
  | number numeral maximal writes =>
      refine .number numeral ?_ writes
      intro c first
      rcases head c first with rfl | same
      · decide
      · exact maximal c same
  | word identifier maximal means =>
      refine .word identifier ?_ means
      intro c first
      rcases head c first with rfl | same
      · decide
      · exact maximal c same
  | bits string => exact .bits string

theorem Lexes.isAscii {run behind : List Char} {meaning : Option TokenKind}
    (lexeme : Lexes run behind meaning) : ∀ c ∈ run, Text.IsAscii c := by
  cases lexeme with
  | number numeral => exact fun c member => isAscii_of_isDigit (numeral.2 c member)
  | word identifier => exact isAscii_of_isIdentifier identifier
  | @bits bits _ string =>
      rw [← TokenKind.toList_spelling_bits]
      exact isAscii_of_mem_spelling (k := .bits bits) string

/-! ### Diagnostics of a munched text -/

section Munched

variable {p : Position} {cs : List Char} {tokens : List Token} {diagnostics : List Diagnostic}

/-- Nothing is reported in front of the text. -/
theorem Munches.not_before (munches : Munches p cs tokens diagnostics) :
    ∀ d ∈ diagnostics, ¬ d.position.Before p := by
  induction munches with
  | done => simp
  | @separator p c _ _ _ _ _ ih => exact fun d member => (p.before_next c).not_before (ih d member)
  | token lexeme _ ih =>
      exact fun d member => (Position.before_after lexeme.ne_nil _).not_before (ih d member)
  | @tooLarge p _ _ _ _ lexeme _ ih =>
      intro d member
      rcases List.mem_cons.mp member with rfl | later
      · exact Position.Before.irrefl p
      · exact (Position.before_after lexeme.ne_nil p).not_before (ih d later)
  | @illegal p c _ _ _ _ _ _ ih =>
      intro d member
      rcases List.mem_cons.mp member with rfl | later
      · exact Position.Before.irrefl p
      · exact (p.before_next c).not_before (ih d later)

/-- A line feed is a separator, so it is not reported. -/
theorem Munches.newline_not_mem (munches : Munches p cs tokens diagnostics) (q : Position) :
    ⟨.illegalCharacter '\n', q⟩ ∉ diagnostics := by
  induction munches with
  | done => simp
  | separator _ _ ih => exact ih
  | token _ _ ih => exact ih
  | tooLarge _ _ ih => simpa using ih
  | @illegal p c _ _ _ solid _ _ ih =>
      have noFeed : '\n' ≠ c := fun feed => solid (by simp [← feed])
      simpa [noFeed] using ih

/-- A text in which no character is illegal is one of ASCII characters. -/
theorem Munches.isAscii (munches : Munches p cs tokens diagnostics)
    (legal : ∀ d ∈ diagnostics, d.isIllegal = false) : ∀ c ∈ cs, Text.IsAscii c := by
  induction munches with
  | done => simp
  | @separator p c _ _ _ blank _ ih =>
      intro d member
      rcases List.mem_cons.mp member with rfl | later
      · rcases blank with rfl | rfl | rfl | rfl <;> decide
      · exact ih legal d later
  | token lexeme _ ih =>
      intro c member
      rcases List.mem_append.mp member with inside | behind
      · exact lexeme.isAscii c inside
      · exact ih legal c behind
  | tooLarge lexeme _ ih =>
      intro c member
      rcases List.mem_append.mp member with inside | behind
      · exact lexeme.isAscii c inside
      · exact ih (fun d later => legal d (List.mem_cons_of_mem _ later)) c behind
  | illegal _ _ _ ih => exact absurd (legal _ List.mem_cons_self) Bool.true_eq_false.mp

/-- A stretch is kept if what is reported as illegal stands in front of it or is found behind it. -/
theorem Munches.cleared_append {run behind : List Char} {reported : List Diagnostic}
    (rest : Munches (p.after run) behind tokens diagnostics)
    (known : ∀ c q, ⟨.illegalCharacter c, q⟩ ∈ reported →
      q.Before p ∨ ⟨.illegalCharacter c, q⟩ ∈ diagnostics) :
    cleared reported p (run ++ behind) = run ++ cleared reported (p.after run) behind :=
  cleared_append_of_spared fun c q member => (known c q member).imp_right (rest.not_before _)

/-- A cleared text is munched like the text itself, but without its illegal characters. -/
theorem Munches.clear (munches : Munches p cs tokens diagnostics) {reported : List Diagnostic}
    (all : diagnostics ⊆ reported)
    (known : ∀ c q, ⟨.illegalCharacter c, q⟩ ∈ reported →
      q.Before p ∨ ⟨.illegalCharacter c, q⟩ ∈ diagnostics) :
    Munches p (cleared reported p cs) tokens (diagnostics.filter fun d => !d.isIllegal) := by
  -- What is reported besides stands in front of the text, and stays there as munching goes on.
  induction munches with
  | done p => exact .done p
  | @separator p c cs _ _ blank rest ih =>
      have others := ih all fun d q member =>
        (known d q member).imp_left fun early => early.trans (p.before_next c)
      have kept : cleared reported p ([c] ++ cs) = c :: cleared reported (p.next c) cs :=
        Munches.cleared_append rest known
      rw [← List.singleton_append, kept]
      exact .separator blank others
  | @token p run behind _ _ _ lexeme rest ih =>
      have later := Position.before_after lexeme.ne_nil p
      have others := ih all fun d q member =>
        (known d q member).imp_left fun early => early.trans later
      rw [rest.cleared_append known]
      exact .token (lexeme.of_head (head_cleared _ _ _)) others
  | @tooLarge p run behind _ rejected lexeme rest ih =>
      have later := Position.before_after lexeme.ne_nil p
      have known : ∀ c q, ⟨.illegalCharacter c, q⟩ ∈ reported →
          q.Before p ∨ ⟨.illegalCharacter c, q⟩ ∈ rejected := fun c q member =>
        (known c q member).imp_right fun found => by simpa using found
      have others := ih (List.subset_of_cons_subset all) fun d q member =>
        (known d q member).imp_left fun early => early.trans later
      rw [rest.cleared_append known]
      exact .tooLarge (lexeme.of_head (head_cleared _ _ _)) others
  | @illegal p c cs _ _ solid foreign rest ih =>
      have found : ⟨.illegalCharacter c, p⟩ ∈ reported := all List.mem_cons_self
      have step : p.next ' ' = p.next c :=
        Position.next_of_ne (by decide) (fun feed => solid (by simp [feed])) p
      have others := ih (List.subset_of_cons_subset all) fun d q member => by
        rcases known d q member with early | here
        · exact .inl (early.trans (p.before_next c))
        rcases List.mem_cons.mp here with same | later
        · cases same
          exact .inl (p.before_next c)
        · exact .inr later
      rw [cleared, if_pos found]
      exact .separator (.inl rfl) (step ▸ others)

end Munched

/-! ### Sources -/

/-- A source in normal form, with blanks in place of its illegal characters. -/
def clearedSource [NormalForm] (source : String) : String :=
  String.ofList (cleared (tokenizeSource source).2 .start (NormalForm.normalize source.toList))

/-- Putting blanks in place of the illegal characters of a source changes none of its tokens, takes
    away just the diagnostics that are about these characters, and leaves it the same instruction or
    the same syntax error. -/
theorem tokenizeSource_clearedSource [NormalForm] (ascii : NormalForm.KeepsAscii)
    (source : String) :
    (tokenizeSource (clearedSource source)).1 = (tokenizeSource source).1 ∧
      (tokenizeSource (clearedSource source)).2 =
        (tokenizeSource source).2.filter (fun d => !d.isIllegal) ∧
      (∀ c q, ⟨.illegalCharacter c, q⟩ ∉ (tokenizeSource (clearedSource source)).2) ∧
      (readLine (clearedSource source)).1 = (readLine source).1 := by
  obtain ⟨tokens, diagnostics, munches⟩ :=
    exists_munches .start (NormalForm.normalize source.toList)
  have whole : tokenizeSource source = _ := munches.tokenize_eq
  have others := munches.clear (List.Subset.refl diagnostics) fun _ _ => .inr
  have legal : ∀ d ∈ diagnostics.filter (fun d => !d.isIllegal), d.isIllegal = false := by
    intro d member
    simpa using (List.mem_filter.mp member).2
  have normal : NormalForm.normalize (clearedSource source).toList =
      cleared diagnostics .start (NormalForm.normalize source.toList) := by
    rw [clearedSource, whole, String.toList_ofList]
    exact ascii _ (others.isAscii legal)
  have clear : tokenizeSource (clearedSource source) =
      (tokens ++ [.atEnd (Position.start.after (NormalForm.normalize source.toList))],
        diagnostics.filter fun d => !d.isIllegal) := by
    rw [tokenizeSource, normal, others.tokenize_eq, after_cleared munches.newline_not_mem]
  have same : (tokenizeSource (clearedSource source)).1 = (tokenizeSource source).1 := by
    rw [clear, whole]
  refine ⟨same, ?_, ?_, congrArg readTokens same⟩
  · rw [clear, whole]
  · intro c q member
    rw [clear] at member
    exact absurd (legal _ member) Bool.true_eq_false.mp

/-- A bracket that is not closed leaves its bits a number. -/
theorem tokenizeSource_clearedSource_bracket :
    NormalForm.KeepsAscii ∧ clearedSource "SELECT q$ R0 [10" = "SELECT q  R0  10" ∧
      (tokenizeSource "SELECT q  R0  10").1 = (tokenizeSource "SELECT q$ R0 [10").1 ∧
      (tokenizeSource "SELECT q  R0  10").2 = [] ∧
      (readLine "SELECT q  R0  10").1 = (readLine "SELECT q$ R0 [10").1 := by
  have cleared : clearedSource "SELECT q$ R0 [10" = "SELECT q  R0  10" := by
    decide +kernel
  have rejected : (tokenizeSource "SELECT q$ R0 [10").2.filter (fun d => !d.isIllegal) = [] := by
    decide +kernel
  obtain ⟨tokens, diagnostics, -, read⟩ :=
    tokenizeSource_clearedSource Unicode.keepsAscii "SELECT q$ R0 [10"
  rw [cleared] at tokens diagnostics read
  exact ⟨Unicode.keepsAscii, cleared, tokens, diagnostics.trans rejected, read⟩

end QuantumAssembler
