import QuantumAssembler.Text.Lines
import Mathlib.Data.List.Basic

/-!
Module: QuantumAssembler.Proofs.Text.Lines
Purpose: Cutting a text behind a line feed cuts its list of lines, and in no other way can the list
  of lines be cut. In front of each line there are as many line feeds as lines.
Main exports: Complete, Complete.lines_append, Complete.length_lines, lines_append_newline,
  exists_of_lines_eq_append
-/

namespace QuantumAssembler.Text

/-- A text that stops between two lines: it is empty or ends in a line feed. -/
def Complete (cs : List Char) : Prop :=
  cs = [] ∨ ∃ front, cs = front ++ ['\n']

theorem Complete.append {cs ds : List Char} (first : Complete cs) (second : Complete ds) :
    Complete (cs ++ ds) := by
  obtain rfl | ⟨front, rfl⟩ := second
  · rwa [List.append_nil]
  · exact .inr ⟨cs ++ front, by simp⟩

/-- What is left of such a text stops between two lines, and is only empty behind a line feed. -/
theorem Complete.tail {c : Char} {rest : List Char} (complete : Complete (c :: rest)) :
    Complete rest ∧ (c ≠ '\n' → rest ≠ []) := by
  obtain none | ⟨front, whole⟩ := complete
  · cases none
  · cases front with
    | nil =>
        obtain ⟨rfl, rfl⟩ := List.cons.inj whole
        exact ⟨.inl rfl, fun other => absurd rfl other⟩
    | cons d front =>
        obtain ⟨-, rfl⟩ := List.cons.inj whole
        exact ⟨.inr ⟨front, rfl⟩, by simp⟩

/-- A character that begins no line end goes in front of the first line. -/
theorem lines_cons {c : Char} {rest : List Char}
    (noPair : ∀ behind, c = '\r' → rest = '\n' :: behind → False) (noFeed : c ≠ '\n') :
    lines (c :: rest) =
      match lines rest with
      | [] => [[c]]
      | line :: others => (c :: line) :: others :=
  lines.eq_4 c rest noPair noFeed

theorem lines_eq_nil_iff {cs : List Char} : lines cs = [] ↔ cs = [] := by
  fun_cases lines cs <;> simp_all

/-- Behind a line feed, the lines begin anew. -/
theorem Complete.lines_append {cs : List Char} (complete : Complete cs) (behind : List Char) :
    lines (cs ++ behind) = lines cs ++ lines behind := by
  fun_induction lines cs with
  | case1 => rfl
  | case2 rest ih =>
      have left := complete.tail.1.tail.1
      simp only [List.cons_append, lines, ih left]
  | case3 rest ih =>
      simp only [List.cons_append, lines, ih complete.tail.1]
  | case4 c rest noPair noFeed none ih =>
      exact absurd (lines_eq_nil_iff.mp none) (complete.tail.2 noFeed)
  | case5 c rest noPair noFeed first others some ih =>
      have more := complete.tail.2 noFeed
      have noPairBehind : ∀ later, c = '\r' → rest ++ behind = '\n' :: later → False := by
        intro later feed whole
        cases rest with
        | nil => exact more rfl
        | cons d rest =>
            obtain ⟨rfl, -⟩ := List.cons.inj whole
            exact noPair rest feed rfl
      rw [List.cons_append, lines_cons noPairBehind noFeed, ih complete.tail.1, some]
      rfl

/-- Such a text has as many lines as line feeds. -/
theorem Complete.length_lines {cs : List Char} (complete : Complete cs) :
    (lines cs).length = cs.count '\n' := by
  fun_induction lines cs with
  | case1 => rfl
  | case2 rest ih => simp [ih complete.tail.1.tail.1]
  | case3 rest ih => simp [ih complete.tail.1]
  | case4 c rest noPair noFeed none ih =>
      exact absurd (lines_eq_nil_iff.mp none) (complete.tail.2 noFeed)
  | case5 c rest noPair noFeed first others some ih =>
      have count := ih complete.tail.1
      rw [some] at count
      rw [List.count_cons_of_ne noFeed, ← count]
      rfl

/-- A text that is not empty and holds no line feed is one line. -/
theorem lines_of_not_mem {cs : List Char} (some : cs ≠ []) (noFeed : '\n' ∉ cs) :
    lines cs = [cs] := by
  induction cs with
  | nil => exact absurd rfl some
  | cons c rest ih =>
      obtain ⟨other, noFeedBehind⟩ := List.ne_and_not_mem_of_not_mem_cons noFeed
      have noPair : ∀ behind, c = '\r' → rest = '\n' :: behind → False := by
        rintro behind - rfl
        exact noFeedBehind List.mem_cons_self
      rw [lines_cons noPair (Ne.symm other)]
      by_cases last : rest = []
      · rw [last]
        rfl
      · rw [ih last noFeedBehind]

/-- A text that holds nothing of a line end is one line with a line feed behind it. -/
theorem lines_append_newline {cs : List Char} (noFeed : '\n' ∉ cs) (noReturn : '\r' ∉ cs) :
    lines (cs ++ ['\n']) = [cs] := by
  induction cs with
  | nil => rfl
  | cons c rest ih =>
      obtain ⟨other, noFeedBehind⟩ := List.ne_and_not_mem_of_not_mem_cons noFeed
      obtain ⟨noPair, noReturnBehind⟩ := List.ne_and_not_mem_of_not_mem_cons noReturn
      rw [List.cons_append, lines_cons (fun _ same _ => noPair same.symm) (Ne.symm other),
        ih noFeedBehind noReturnBehind]

/-- The first line stands in front of the text, with its line end; only the last line may lack one.
    -/
theorem exists_of_lines_eq_cons {cs line : List Char} {others : List (List Char)}
    (whole : lines cs = line :: others) :
    ∃ ending behind, cs = line ++ ending ++ behind ∧ lines behind = others ∧
      (ending = ['\n'] ∨ ending = ['\r', '\n'] ∨ ending = [] ∧ behind = []) := by
  fun_induction lines cs generalizing line others with
  | case1 => cases whole
  | case2 rest ih =>
      cases whole
      exact ⟨['\r', '\n'], rest, rfl, rfl, .inr (.inl rfl)⟩
  | case3 rest ih =>
      cases whole
      exact ⟨['\n'], rest, rfl, rfl, .inl rfl⟩
  | case4 c rest noPair noFeed none ih =>
      cases whole
      obtain rfl := lines_eq_nil_iff.mp none
      exact ⟨[], [], rfl, rfl, .inr (.inr ⟨rfl, rfl⟩)⟩
  | case5 c rest noPair noFeed first others some ih =>
      cases whole
      obtain ⟨ending, behind, rfl, lined, shape⟩ := ih some
      exact ⟨ending, behind, rfl, lined, shape⟩

/-- Where lines are cut in front of a line, the text is cut between two lines. -/
theorem exists_of_lines_eq_append {cs : List Char} {before after : List (List Char)}
    (whole : lines cs = before ++ after) (more : after ≠ []) :
    ∃ front behind, cs = front ++ behind ∧ Complete front ∧ lines front = before ∧
      lines behind = after := by
  induction before generalizing cs with
  | nil => exact ⟨[], cs, rfl, .inl rfl, rfl, whole⟩
  | cons line before ih =>
      obtain ⟨ending, rest, rfl, lined, shape⟩ := exists_of_lines_eq_cons whole
      obtain ⟨front, behind, rfl, complete, rfl, last⟩ := ih lined
      -- A line that lacks its line end would be the last, but others follow.
      have first : Complete (line ++ ending) := by
        rcases shape with rfl | rfl | ⟨-, none⟩
        · exact .inr ⟨line, rfl⟩
        · exact .inr ⟨line ++ ['\r'], by simp⟩
        · rw [none] at lined
          exact absurd (List.append_eq_nil_iff.mp lined.symm).2 more
      have one : lines (line ++ ending) = [line] := by
        rw [first.lines_append, lined] at whole
        have cut : lines (line ++ ending) ++ (lines front ++ after) =
            [line] ++ (lines front ++ after) := whole
        exact List.append_cancel_right cut
      refine ⟨line ++ ending ++ front, behind, by simp, first.append complete, ?_, last⟩
      rw [first.lines_append, one]
      rfl

end QuantumAssembler.Text
