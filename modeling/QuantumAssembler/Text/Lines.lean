/-!
Module: QuantumAssembler.Text.Lines
Purpose: The division of a text into lines. A line ends with a line feed; a carriage return
  directly before that line feed belongs to the line end. What follows the last line feed is a line
  only if it is not empty, and a carriage return at its end is part of it.
Main exports: lines, linesOf
-/

namespace QuantumAssembler.Text

/-- The lines of a text, without their line ends. -/
def lines : List Char → List (List Char)
  | [] => []
  | '\r' :: '\n' :: rest => [] :: lines rest
  | '\n' :: rest => [] :: lines rest
  | c :: rest =>
    match lines rest with
    | [] => [[c]]
    | line :: others => (c :: line) :: others

/-- The lines of a string, as strings. -/
def linesOf (text : String) : List String :=
  (lines text.toList).map String.ofList

/-- No line holds a line feed. -/
theorem newline_not_mem_of_mem_lines {cs line : List Char} (h : line ∈ lines cs) :
    '\n' ∉ line := by
  fun_induction lines cs generalizing line with
  | case1 => simp at h
  | case2 rest ih =>
    rcases List.mem_cons.1 h with rfl | h
    · simp
    · exact ih h
  | case3 rest ih =>
    rcases List.mem_cons.1 h with rfl | h
    · simp
    · exact ih h
  | case4 c rest _ notNewline _ ih =>
    simp only [List.mem_singleton] at h
    subst h
    simpa using fun same : '\n' = c => notNewline same.symm
  | case5 c rest _ notNewline first others equation ih =>
    rw [equation] at ih
    rcases List.mem_cons.1 h with rfl | h
    · have := ih (List.mem_cons_self)
      simpa [this] using fun same : '\n' = c => notNewline same.symm
    · exact ih (List.mem_cons_of_mem _ h)

end QuantumAssembler.Text
