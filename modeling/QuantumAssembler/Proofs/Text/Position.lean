import Mathlib.Data.List.Chain
import Mathlib.Data.List.Induction
import Mathlib.Data.List.TakeWhile
import QuantumAssembler.Text.Position

/-!
Module: QuantumAssembler.Proofs.Text.Position
Purpose: Places as numbers of characters. The place behind a text is told by its line feeds and by
  the characters behind the last of them. Places are ordered by line and then by column, and one
  that lies farther on in a text comes later.
Main exports: Position.behind, Position.after_start, Position.behind_of_not_mem, Position.Before,
  Position.Before.not_before, Position.before_after
-/

namespace QuantumAssembler.Position

/-! ### Counting -/

/-- The place behind a text: one line more than it has line feeds, and one column more than it has
    characters behind the last of them. -/
def behind (cs : List Char) : Position :=
  ⟨1 + cs.count '\n', 1 + (cs.reverse.takeWhile (· ≠ '\n')).length⟩

theorem behind_append_singleton (cs : List Char) (c : Char) :
    behind (cs ++ [c]) = (behind cs).next c := by
  by_cases feed : c = '\n'
  · simp [behind, next, feed, Nat.add_assoc]
  · simp [behind, next, feed, Nat.add_assoc]

/-- Stepping from the start over a text leads to the place that its characters tell. -/
theorem after_start (cs : List Char) : start.after cs = behind cs := by
  induction cs using List.reverseRecOn with
  | nil => rfl
  | append_singleton cs c ih => rw [after_append, ih, behind_append_singleton, after_cons, after_nil]

/-- Behind a text without line feeds, only its length counts. -/
theorem behind_of_not_mem {cs : List Char} (noFeed : '\n' ∉ cs) :
    behind cs = ⟨1, 1 + cs.length⟩ := by
  have whole : cs.reverse.takeWhile (· ≠ '\n') = cs.reverse := by
    rw [List.takeWhile_eq_self_iff]
    intro c member
    simpa using fun feed : c = '\n' => noFeed (feed ▸ List.mem_reverse.mp member)
  rw [behind, whole, List.length_reverse, List.count_eq_zero_of_not_mem noFeed]

/-- All characters but a line feed lead to the same next place. -/
theorem next_of_ne {c d : Char} (noFeed : c ≠ '\n') (others : d ≠ '\n') (p : Position) :
    p.next c = p.next d := by
  rw [next, next, if_neg noFeed, if_neg others]

/-! ### Order -/

/-- The order of places in a text: by line, and by column in one line. -/
def Before (p q : Position) : Prop :=
  p.line < q.line ∨ p.line = q.line ∧ p.column < q.column

theorem Before.trans {p q r : Position} (first : p.Before q) (second : q.Before r) :
    p.Before r := by
  unfold Before at *
  omega

theorem Before.irrefl (p : Position) : ¬ p.Before p := by
  unfold Before
  omega

/-- What does not come before a place does not come before an earlier one. -/
theorem Before.not_before {p q r : Position} (earlier : p.Before q) (late : ¬ r.Before q) :
    ¬ r.Before p :=
  fun early => late (early.trans earlier)

instance : IsTrans Position Before :=
  ⟨fun _ _ _ => Before.trans⟩

theorem before_next (p : Position) (c : Char) : p.Before (p.next c) := by
  unfold next
  split
  · exact .inl (Nat.lt_succ_self p.line)
  · exact .inr ⟨rfl, Nat.lt_succ_self p.column⟩

/-- Over a text that is not empty, one comes to a later place. -/
theorem before_after {cs : List Char} (some : cs ≠ []) (p : Position) : p.Before (p.after cs) := by
  induction cs generalizing p with
  | nil => exact absurd rfl some
  | cons c rest ih =>
      by_cases last : rest = []
      · rw [last]
        exact p.before_next c
      · exact (p.before_next c).trans (ih last _)

end QuantumAssembler.Position
