import Mathlib.Tactic.Choose
import QuantumAssembler.Proofs.Language.ViablePrefix

/-!
Module: QuantumAssembler.Proofs.Language.CursorPlace
Purpose: Where the cursor stands when one list of tokens is read on by call after call. Each call
  goes on where the one before it stopped, also behind an error. The cursor passes over one token
  after another, none of them an end token, so that it always stands on a token of the list, never
  steps back and never leaves the first end token.
Main exports: Cursor.StandsAt, Cursor.StandsAt.reads, Production.cursorLeft,
  Production.exists_reads_sentence, afterCalls, call, afterCalls_eq_of_atEnd, afterCalls_standsAt,
  answer_call_append, calls_stay_before_first_end
-/

namespace QuantumAssembler

/-! ### Cursors as numbers of tokens -/

namespace Cursor

/-- The cursor is on the token number `n` of a list, counted from zero, with the rest of the list
    behind it. -/
def StandsAt (tokens : List Token) (n : Nat) (c : Cursor) : Prop :=
  tokens.drop n = c.current :: c.later

/-- The number of the first end token of a list. -/
def firstEnd (tokens : List Token) : Nat :=
  tokens.findIdx Token.isEnd

namespace StandsAt

variable {tokens : List Token} {n : Nat} {c after : Cursor} {ks : List TokenKind}

/-- A cursor stands on a token that the list has. -/
theorem getElem? (stands : c.StandsAt tokens n) : tokens[n]? = some c.current := by
  rw [← List.head?_drop, stands, List.head?_cons]

theorem lt_length (stands : c.StandsAt tokens n) : n < tokens.length :=
  (List.getElem?_eq_some_iff.mp stands.getElem?).1

/-- A cursor stands in one place only. -/
theorem unique (stands : c.StandsAt tokens n) {m : Nat} (other : c.StandsAt tokens m) : n = m := by
  have same : (tokens.drop n).length = (tokens.drop m).length :=
    congrArg List.length (stands.trans other.symm)
  have bounds := And.intro stands.lt_length other.lt_length
  rw [List.length_drop, List.length_drop] at same
  omega

/-- A step from a token that is no end token leads to the next token. -/
theorem step (stands : c.StandsAt tokens n) (closed : c.Closed)
    (inner : c.current.kind ≠ .endOfInput) : c.advance.StandsAt tokens (n + 1) := by
  obtain ⟨t, later, behind, next, -⟩ := closed.step inner
  rw [StandsAt, ← List.tail_drop, stands, List.tail_cons, behind, next]

/-- An inner token up to the first end token is in front of it. -/
theorem lt_firstEnd (stands : c.StandsAt tokens n) (short : n ≤ firstEnd tokens)
    (inner : c.current.kind ≠ .endOfInput) : n < firstEnd tokens := by
  refine lt_of_le_of_ne short fun last => inner ?_
  have found : tokens[firstEnd tokens]? = some c.current := last ▸ stands.getElem?
  obtain ⟨bound, same⟩ := List.getElem?_eq_some_iff.mp found
  have ended : tokens[firstEnd tokens].isEnd = true := List.findIdx_getElem
  rw [same] at ended
  simpa [Token.isEnd] using ended

/-- Reading passes over as many tokens as it reads, and stops at the first end token at the latest.
    -/
theorem reads (stands : c.StandsAt tokens n) (closed : c.Closed) (short : n ≤ firstEnd tokens)
    (read : c.Reads ks after) :
    after.StandsAt tokens (n + ks.length) ∧ after.Closed ∧ n + ks.length ≤ firstEnd tokens := by
  induction ks generalizing c n with
  | nil =>
      obtain rfl : c = after := read
      exact ⟨stands, closed, short⟩
  | cons k ks ih =>
      obtain ⟨kind, inner, read⟩ := read
      have onInner : c.current.kind ≠ .endOfInput := kind ▸ inner
      have onward := ih (stands.step closed onInner) closed.advance
        (stands.lt_firstEnd short onInner) read
      rwa [List.length_cons, Nat.add_comm ks.length, ← Nat.add_assoc]

end StandsAt

/-- Reading begins on the first token. -/
theorem standsAt_ofTokens (tokens : List Token) : (ofTokens tokens).StandsAt (closed tokens) 0 := by
  obtain ⟨e, member, -⟩ := exists_isEnd_closed tokens
  unfold StandsAt ofTokens
  cases whole : closed tokens with
  | nil => simp [whole] at member
  | cons t later => rfl

/-- The list that is read has a first end token, with inner tokens only in front of it. -/
theorem exists_firstEnd (tokens : List Token) :
    ∃ e, (closed tokens)[firstEnd (closed tokens)]? = some e ∧ e.kind = .endOfInput ∧
      ∀ t ∈ (closed tokens).take (firstEnd (closed tokens)), t.kind ≠ .endOfInput := by
  have bound : firstEnd (closed tokens) < (closed tokens).length :=
    List.findIdx_lt_length_of_exists (exists_isEnd_closed tokens)
  have ended : (closed tokens)[firstEnd (closed tokens)].isEnd = true := List.findIdx_getElem
  refine ⟨_, List.getElem?_eq_getElem bound, by simpa [Token.isEnd] using ended, ?_⟩
  intro t member
  obtain ⟨j, inFront, rfl⟩ := List.getElem_of_mem member
  rw [List.length_take] at inFront
  have inner := List.not_of_lt_findIdx (p := Token.isEnd) (Nat.lt_min.mp inFront).1
  rw [List.getElem_take]
  simpa [Token.isEnd] using inner

end Cursor

/-! ### One call -/

namespace Production

/-- Where a result leaves the cursor. -/
def cursorLeft {α : Type} : EStateM.Result SyntaxError Cursor α → Cursor
  | .ok _ after => after
  | .error _ after => after

/-- What a result tells, apart from the cursor. -/
def answer {α : Type} : EStateM.Result SyntaxError Cursor α → Except SyntaxError α
  | .ok a _ => .ok a
  | .error e _ => .error e

/-- Whatever a call answers, it has read a row of inner tokens. -/
theorem exists_reads_sentence (c : Cursor) : ∃ ks, c.Reads ks (cursorLeft (sentence c)) := by
  have settles := sharp_instruction viable_nil c
  unfold sentence
  cases first : instruction c with
  | error e after =>
      rw [first] at settles
      obtain ⟨ks, reads, -⟩ := settles
      exact ⟨ks, reads⟩
  | ok i after =>
      rw [first] at settles
      obtain ⟨ks, reads, -⟩ := settles
      refine ⟨ks, ?_⟩
      dsimp only
      split
      · exact reads
      · exact reads

/-- At an end token a call fails on the spot. -/
theorem sentence_of_atEnd {c : Cursor} (ended : c.current.kind = .endOfInput) :
    sentence c = .error ⟨.endedEarly .instruction, c.current.position⟩ c := by
  simp [sentence, instruction, refuse, Token.isEnd, ended]

theorem answer_cutResult {α : Type} (r : EStateM.Result SyntaxError Cursor α) :
    answer (cutResult r) = answer r := by
  cases r <;> rfl

theorem cursorLeft_cutResult {α : Type} (r : EStateM.Result SyntaxError Cursor α) :
    cursorLeft (cutResult r) = (cursorLeft r).cut := by
  cases r <;> rfl

end Production

/-! ### Call after call -/

open Production

/-- The cursor behind `n` calls on one list of tokens, whatever these calls answered. -/
def afterCalls (tokens : List Token) : Nat → Cursor
  | 0 => .ofTokens tokens
  | n + 1 => cursorLeft (sentence (afterCalls tokens n))

/-- The result of the call number `n`, counted from zero. -/
def call (tokens : List Token) (n : Nat) : EStateM.Result SyntaxError Cursor Instruction :=
  sentence (afterCalls tokens n)

/-- Once the cursor is on an end token, it stays there. -/
theorem afterCalls_eq_of_atEnd {tokens : List Token} {n m : Nat} (later : n ≤ m)
    (ended : (afterCalls tokens n).current.kind = .endOfInput) :
    afterCalls tokens m = afterCalls tokens n := by
  induction m, later using Nat.le_induction with
  | base => rfl
  | succ m _ ih => rw [afterCalls, ih, sentence_of_atEnd ended, cursorLeft]

variable (tokens : List Token)

/-- Behind any number of calls the cursor stands on a token up to the first end token. -/
theorem afterCalls_standsAt (n : Nat) :
    ∃ place, (afterCalls tokens n).StandsAt (Cursor.closed tokens) place ∧
      (afterCalls tokens n).Closed ∧ place ≤ Cursor.firstEnd (Cursor.closed tokens) := by
  induction n with
  | zero =>
      exact ⟨0, Cursor.standsAt_ofTokens tokens, (Cursor.closed_ofTokens tokens).1, Nat.zero_le _⟩
  | succ n ih =>
      obtain ⟨place, stands, closed, short⟩ := ih
      obtain ⟨ks, reads⟩ := exists_reads_sentence (afterCalls tokens n)
      exact ⟨_, stands.reads closed short reads⟩

/-- What stands behind an end token makes no difference to any call. -/
theorem answer_call_append {e : Token} (ended : e.isEnd = true) (behind : List Token) (n : Nat) :
    answer (call (tokens ++ e :: behind) n) = answer (call (tokens ++ [e]) n) := by
  have alike : ∀ m, (afterCalls (tokens ++ e :: behind) m).cut =
      (afterCalls (tokens ++ [e]) m).cut := by
    intro m
    induction m with
    | zero => exact Cursor.cut_ofTokens_append ended tokens behind
    | succ m ih =>
        rw [afterCalls, afterCalls, ← cursorLeft_cutResult, ← isLocal_sentence, ih,
          isLocal_sentence, cursorLeft_cutResult]
  rw [call, call, ← answer_cutResult, ← isLocal_sentence, alike n, isLocal_sentence,
    answer_cutResult]

/-- When a list of tokens is read by call after call, the cursor is always on a token of the list:
    it begins on the first one, passes over inner tokens only, and stays up to the first end token.
    From the call on that finds the cursor there, all calls fail at that token and leave the cursor
    alone. No call sees what stands behind an end token. -/
theorem calls_stay_before_first_end :
    ∃ (place : Nat → Nat) (e : Token),
      (Cursor.closed tokens)[Cursor.firstEnd (Cursor.closed tokens)]? = some e ∧
      e.kind = .endOfInput ∧
      (∀ t ∈ (Cursor.closed tokens).take (Cursor.firstEnd (Cursor.closed tokens)),
        t.kind ≠ .endOfInput) ∧
      place 0 = 0 ∧
      (∀ n, (afterCalls tokens n).StandsAt (Cursor.closed tokens) (place n) ∧
        place n < (Cursor.closed tokens).length ∧
        place n ≤ Cursor.firstEnd (Cursor.closed tokens) ∧
        ∃ ks, (afterCalls tokens n).Reads ks (afterCalls tokens (n + 1)) ∧
          place (n + 1) = place n + ks.length) ∧
      (∀ n, place n = Cursor.firstEnd (Cursor.closed tokens) → ∀ m ≥ n, ∃ error,
        call tokens m = .error error (afterCalls tokens m) ∧ place m = place n ∧
        error.position = e.position ∧
        error.message = "Expected an instruction, found end of input") ∧
      ∀ (other : Token) (behind : List Token) (n : Nat), other.kind = .endOfInput →
        answer (call (tokens ++ other :: behind) n) = answer (call (tokens ++ [other]) n) := by
  obtain ⟨e, found, ended, inner⟩ := Cursor.exists_firstEnd tokens
  choose place stands closed short using afterCalls_standsAt tokens
  refine ⟨place, e, found, ended, inner, ?_, ?_, ?_, ?_⟩
  · exact (stands 0).unique (Cursor.standsAt_ofTokens tokens)
  · intro n
    obtain ⟨ks, reads⟩ := exists_reads_sentence (afterCalls tokens n)
    have onward := ((stands n).reads (closed n) (short n) reads).1
    exact ⟨stands n, (stands n).lt_length, short n, ks, reads, (stands (n + 1)).unique onward⟩
  · intro n last m later
    have current : (afterCalls tokens n).current = e :=
      Option.some.inj ((stands n).getElem?.symm.trans (last ▸ found))
    have stays := afterCalls_eq_of_atEnd later (current ▸ ended)
    refine ⟨_, sentence_of_atEnd (by rw [stays, current, ended]), ?_, by rw [stays, current], rfl⟩
    exact (stays ▸ stands m).unique (stands n)
  · intro other behind n kind
    exact answer_call_append tokens (by simp [Token.isEnd, kind]) behind n

/-- With an end token inside a list, the first call reads up to it and all later ones fail there. -/
theorem calls_stay_before_first_end_inside :
    let tokens : List Token := [⟨.keyword .load, "INITIALIZE", ⟨1, 1⟩⟩,
      ⟨.register 0, "R0", ⟨1, 12⟩⟩, .atEnd ⟨1, 14⟩, ⟨.number 3, "3", ⟨1, 15⟩⟩]
    answer (call tokens 0) = .ok (.load 0 none) ∧
      ∀ m ≥ 1, ∃ error, call tokens m = .error error (afterCalls tokens m) ∧
        error.position = ⟨1, 14⟩ ∧
          error.message = "Expected an instruction, found end of input" := by
  intro tokens
  obtain ⟨place, e, found, -, -, -, steps, fails, -⟩ := calls_stay_before_first_end tokens
  have first : (afterCalls tokens 1).StandsAt (Cursor.closed tokens) 2 := rfl
  have last : place 1 = Cursor.firstEnd (Cursor.closed tokens) := (steps 1).1.unique first
  cases found
  refine ⟨rfl, fun m later => ?_⟩
  obtain ⟨error, refused, -, there, message⟩ := fails 1 last m later
  exact ⟨error, refused, there, message⟩

end QuantumAssembler
