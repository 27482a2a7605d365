import Mathlib.Data.List.TakeWhile
import QuantumAssembler.Proofs.Text.Lines
import QuantumAssembler.Text.WhiteSpace

/-!
Module: QuantumAssembler.Proofs.Text.Margins
Purpose: What surrounds the content of a line: white space at its ends, and the line end. A text is
  its lines with their line ends put together again. Trimming takes away white space only, and line
  ends are white space, so a line trims alike with its line end and without. Lines may be emptied in
  a text without a change of the others.
Main exports: exists_trim, trim_append_of_all, trim_of_none, endedLines, map_fst_endedLines,
  fedLines, flatten_fedLines, map_fedLines, replaceLines, lines_replaceLines
-/

namespace QuantumAssembler.Text

/-! ### White space at the ends -/

/-- A text is its trimmed form with white space on both sides. -/
theorem exists_trim (cs : List Char) :
    ∃ front back, cs = front ++ trim cs ++ back ∧ (∀ c ∈ front, isWhiteSpace c = true) ∧
      ∀ c ∈ back, isWhiteSpace c = true := by
  have start : cs = cs.takeWhile isWhiteSpace ++ trimStart cs :=
    List.takeWhile_append_dropWhile.symm
  have ending : trimStart cs =
      trim cs ++ ((trimStart cs).reverse.takeWhile isWhiteSpace).reverse := by
    rw [trim, trimEnd, ← List.reverse_append, List.takeWhile_append_dropWhile, List.reverse_reverse]
  refine ⟨cs.takeWhile isWhiteSpace, ((trimStart cs).reverse.takeWhile isWhiteSpace).reverse,
    ?_, ?_, ?_⟩
  · rw [List.append_assoc, ← ending, ← start]
  · intro c member
    exact List.mem_takeWhile_imp member
  · intro c member
    exact List.mem_takeWhile_imp (List.mem_reverse.mp member)

theorem trimEnd_append_of_all {gap : List Char} (white : ∀ c ∈ gap, isWhiteSpace c = true)
    (cs : List Char) : trimEnd (cs ++ gap) = trimEnd cs := by
  have dropped : ∀ c ∈ gap.reverse, isWhiteSpace c = true := fun c member =>
    white c (List.mem_reverse.mp member)
  rw [trimEnd, trimEnd, List.reverse_append, List.dropWhile_append_of_pos dropped]

/-- White space behind a text is trimmed away. -/
theorem trim_append_of_all {gap : List Char} (white : ∀ c ∈ gap, isWhiteSpace c = true)
    (cs : List Char) : trim (cs ++ gap) = trim cs := by
  induction cs with
  | nil => exact trim_eq_nil_of_all white
  | cons c rest ih =>
      cases blank : isWhiteSpace c with
      | true =>
          have drops : ∀ more, trim (c :: more) = trim more := by
            intro more
            rw [trim, trim, trimStart, trimStart, List.dropWhile_cons_of_pos blank]
          rw [List.cons_append, drops, drops, ih]
      | false =>
          have keeps : ∀ more, trim (c :: more) = trimEnd (c :: more) := by
            intro more
            rw [trim, trimStart, List.dropWhile_cons_of_neg (by simp [blank])]
          rw [List.cons_append, keeps, keeps, ← List.cons_append, trimEnd_append_of_all white]

/-- A text without white space is trimmed already. -/
theorem trim_of_none {cs : List Char} (solid : ∀ c ∈ cs, isWhiteSpace c = false) :
    trim cs = cs := by
  obtain ⟨front, back, whole, white, whiteBehind⟩ := exists_trim cs
  have clash : ∀ c ∈ cs, isWhiteSpace c ≠ true := fun c member => by simp [solid c member]
  have noFront : front = [] := by
    refine List.eq_nil_iff_forall_not_mem.mpr fun c member => clash c ?_ (white c member)
    rw [whole]
    simp [member]
  have noBack : back = [] := by
    refine List.eq_nil_iff_forall_not_mem.mpr fun c member => clash c ?_ (whiteBehind c member)
    rw [whole]
    simp [member]
  rw [noFront, noBack, List.nil_append, List.append_nil] at whole
  exact whole.symm

/-! ### Line ends -/

/-- The lines of a text, each with its line end, which only the last line may lack. -/
def endedLines : List Char → List (List Char × List Char)
  | [] => []
  | '\r' :: '\n' :: rest => ([], ['\r', '\n']) :: endedLines rest
  | '\n' :: rest => ([], ['\n']) :: endedLines rest
  | c :: rest =>
    match endedLines rest with
    | [] => [([c], [])]
    | (line, ending) :: others => (c :: line, ending) :: others

theorem map_fst_endedLines (cs : List Char) : (endedLines cs).map Prod.fst = lines cs := by
  fun_induction endedLines cs with
  | case1 => rfl
  | case2 rest ih => rw [List.map_cons, lines, ih]
  | case3 rest ih => rw [List.map_cons, lines, ih]
  | case4 c rest noPair noFeed none ih =>
      rw [lines_cons noPair noFeed, ← ih, none]
      rfl
  | case5 c rest noPair noFeed line ending others some ih =>
      rw [lines_cons noPair noFeed, ← ih, some]
      rfl

/-- The first line stands in front of the text, with its line end; only the last line may lack one.
    -/
theorem exists_of_endedLines_eq_cons {cs line ending : List Char}
    {others : List (List Char × List Char)} (whole : endedLines cs = (line, ending) :: others) :
    ∃ behind, cs = line ++ ending ++ behind ∧ endedLines behind = others ∧
      (ending = ['\n'] ∨ ending = ['\r', '\n'] ∨ ending = [] ∧ behind = []) := by
  fun_induction endedLines cs generalizing line others with
  | case1 => cases whole
  | case2 rest ih =>
      cases whole
      exact ⟨rest, rfl, rfl, .inr (.inl rfl)⟩
  | case3 rest ih =>
      cases whole
      exact ⟨rest, rfl, rfl, .inl rfl⟩
  | case4 c rest noPair noFeed none ih =>
      cases whole
      have nothing : lines rest = [] := by rw [← map_fst_endedLines, none, List.map_nil]
      obtain rfl := lines_eq_nil_iff.mp nothing
      exact ⟨[], rfl, none, .inr (.inr ⟨rfl, rfl⟩)⟩
  | case5 c rest noPair noFeed line ending others some ih =>
      cases whole
      obtain ⟨behind, rfl, lined, shape⟩ := ih some
      exact ⟨behind, rfl, lined, shape⟩

theorem isWhiteSpace_ending {cs : List Char} {piece : List Char × List Char}
    (member : piece ∈ endedLines cs) : ∀ c ∈ piece.2, isWhiteSpace c = true := by
  induction whole : endedLines cs generalizing cs with
  | nil =>
      rw [whole] at member
      cases member
  | cons first others ih =>
      obtain ⟨behind, -, rfl, shape⟩ := exists_of_endedLines_eq_cons whole
      rw [whole] at member
      rcases List.mem_cons.mp member with rfl | member
      · intro c held
        have returns : c = '\r' ∨ c = '\n' := by
          rcases shape with ending | ending | ⟨ending, -⟩
          · exact .inr (by simpa [ending] using held)
          · simpa [ending] using held
          · simp [ending] at held
        rcases returns with rfl | rfl
        · decide
        · decide
      · exact ih member rfl

/-- The lines of a text as a terminal hands them over, line ends included. -/
def fedLines (cs : List Char) : List (List Char) :=
  (endedLines cs).map fun piece => piece.1 ++ piece.2

/-- A text is handed over whole. -/
theorem flatten_fedLines (cs : List Char) : (fedLines cs).flatten = cs := by
  rw [fedLines, ← List.flatMap_def]
  fun_induction endedLines cs with
  | case1 => rfl
  | case2 rest ih => rw [List.flatMap_cons, ih]; rfl
  | case3 rest ih => rw [List.flatMap_cons, ih]; rfl
  | case4 c rest noPair noFeed none ih =>
      rw [none] at ih
      rw [← ih]
      rfl
  | case5 c rest noPair noFeed line ending others some ih =>
      rw [some, List.flatMap_cons] at ih
      rw [← ih]
      rfl

/-- What does not depend on white space at the ends of lines is the same with line ends and without.
    -/
theorem map_fedLines {α : Type} {f : List Char → α}
    (trimmed : ∀ line other, trim line = trim other → f line = f other) (cs : List Char) :
    (fedLines cs).map f = (lines cs).map f := by
  rw [fedLines, ← map_fst_endedLines, List.map_map, List.map_map]
  apply List.map_congr_left
  intro piece member
  exact trimmed _ _ (trim_append_of_all (isWhiteSpace_ending member) piece.1)

/-! ### Other lines in place of lines -/

/-- A text with other lines in place of its own; the line ends stay. -/
def replaceLines (f : List Char → List Char) (cs : List Char) : List Char :=
  (endedLines cs).flatMap fun piece => f piece.1 ++ piece.2

/-- A line with its line end is one line. -/
theorem lines_ended {line ending : List Char} (some : ending = ['\n'] ∨ ending = ['\r', '\n'])
    {behind : List Char} (first : lines (line ++ ending ++ behind) = line :: lines behind) :
    Complete (line ++ ending) ∧ lines (line ++ ending) = [line] := by
  have complete : Complete (line ++ ending) := by
    rcases some with rfl | rfl
    · exact .inr ⟨line, rfl⟩
    · exact .inr ⟨line ++ ['\r'], by simp⟩
  rw [complete.lines_append] at first
  exact ⟨complete, List.append_cancel_right first⟩

/-- A text whose lines are emptied or kept has these lines, apart from an empty one at the end that
    has no line end. -/
theorem lines_replaceLines {f : List Char → List Char}
    (keeps : ∀ line, f line = line ∨ f line = []) (cs : List Char) :
    ∃ gap, (lines cs).map f = lines (replaceLines f cs) ++ gap ∧ ∀ line ∈ gap, line = [] := by
  unfold replaceLines
  induction whole : endedLines cs generalizing cs with
  | nil =>
      rw [← map_fst_endedLines, whole]
      exact ⟨[], rfl, by simp⟩
  | cons first others ih =>
      obtain ⟨line, ending⟩ := first
      obtain ⟨behind, rfl, rest, shape⟩ := exists_of_endedLines_eq_cons whole
      obtain ⟨gap, same, empty⟩ := ih behind rest
      have listed := map_fst_endedLines (line ++ ending ++ behind)
      rw [whole, List.map_cons, ← rest, map_fst_endedLines] at listed
      rw [← listed, List.map_cons, List.flatMap_cons, same]
      have ended : ending = ['\n'] ∨ ending = ['\r', '\n'] ∨
          ending = [] ∧ behind = [] ∧ others = [] := by
        rcases shape with feed | both | ⟨none, rfl⟩
        · exact .inl feed
        · exact .inr (.inl both)
        · exact .inr (.inr ⟨none, rfl, rest.symm⟩)
      rcases or_assoc.mpr ended with some | ⟨rfl, rfl, rfl⟩
      · have cut : Complete (f line ++ ending) ∧ lines (f line ++ ending) = [f line] := by
          rcases keeps line with kept | emptied
          · rw [kept]
            exact lines_ended some listed.symm
          · have blank : lines ([] ++ ending ++ []) = [] :: lines [] := by
              rcases some with rfl | rfl
              · rfl
              · rfl
            rw [emptied]
            exact lines_ended some blank
        refine ⟨gap, ?_, empty⟩
        rw [cut.1.lines_append, cut.2]
        rfl
      · -- The last line has no line end; if it is emptied, nothing is left of it.
        obtain rfl : gap = [] := by simpa [lines] using same.symm
        rw [List.append_nil, List.append_nil] at listed
        rcases keeps line with kept | emptied
        · refine ⟨[], ?_, by simp⟩
          simpa [kept, lines] using listed
        · refine ⟨[[]], ?_, by simp⟩
          simp [emptied, lines]

end QuantumAssembler.Text
