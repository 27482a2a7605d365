/-!
Module: QuantumAssembler.Text.WhiteSpace
Purpose: The characters with the Unicode property `White_Space`, and the removal of such characters
  from both ends of a text. Source lines and spelled-out scalars are trimmed by this rule.
Main exports: isWhiteSpace, trimStart, trimEnd, trim
-/

namespace QuantumAssembler.Text

/-- The twenty-five characters with the Unicode property `White_Space`. -/
def isWhiteSpace (c : Char) : Bool :=
  let n := c.toNat
  (0x09 ≤ n && n ≤ 0x0D) || n == 0x20 || n == 0x85 || n == 0xA0 || n == 0x1680 ||
  (0x2000 ≤ n && n ≤ 0x200A) || n == 0x2028 || n == 0x2029 || n == 0x202F || n == 0x205F ||
  n == 0x3000

/-- Drops the white space in front. -/
def trimStart (cs : List Char) : List Char :=
  cs.dropWhile isWhiteSpace

/-- Drops the white space at the end. -/
def trimEnd (cs : List Char) : List Char :=
  (cs.reverse.dropWhile isWhiteSpace).reverse

/-- Drops the white space at both ends. -/
def trim (cs : List Char) : List Char :=
  trimEnd (trimStart cs)

/-- A text of white space only trims to nothing. -/
theorem trim_eq_nil_of_all {cs : List Char} (h : ∀ c ∈ cs, isWhiteSpace c = true) :
    trim cs = [] := by
  have front : trimStart cs = [] := by
    induction cs with
    | nil => rfl
    | cons c rest ih =>
      rw [trimStart, List.dropWhile_cons_of_pos (h c List.mem_cons_self)]
      exact ih fun d hd => h d (List.mem_cons_of_mem _ hd)
  rw [trim, front]
  rfl

end QuantumAssembler.Text
