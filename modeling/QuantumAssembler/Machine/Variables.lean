import QuantumAssembler.DenseMatrix.Basic

/-!
Module: QuantumAssembler.Machine.Variables
Purpose: The values of named variables. A variable holds a scalar or a matrix. The variables are
  kept in the order of their names, each name once, so that two sets of variables with the same
  bindings are equal.
Main exports: FloatMatrix, Value, Variables, Variables.get?, Variables.set, Variables.get?_set
-/

namespace QuantumAssembler

/-- Matrices as the computer holds them, with floating-point parts. -/
abbrev FloatMatrix := DenseMatrix (Scalar Float)

/-- The content of a variable. -/
inductive Value where
  | scalar (z : Scalar Float)
  | matrix (m : FloatMatrix)

namespace Value

/-- The text of a value. -/
def text : Value → String
  | scalar z => z.text
  | matrix m => m.text

/-- The texts of the cells of a value, row by row; a scalar is one cell. -/
def cellTexts : Value → List (List String)
  | scalar z => [[z.text]]
  | matrix m => m.cellTexts

/-- Whether a value is a matrix. -/
def isMatrix : Value → Bool
  | scalar _ => false
  | matrix _ => true

end Value

/-- Puts a binding at the place of its name; a binding of the same name is replaced. -/
def insertBinding (name : String) (value : Value) : List (String × Value) → List (String × Value)
  | [] => [(name, value)]
  | (key, held) :: rest =>
    if name < key then (name, value) :: (key, held) :: rest
    else if name = key then (name, value) :: rest
    else (key, held) :: insertBinding name value rest

/-- Nothing but the new binding is added. -/
theorem eq_or_mem_of_mem_insertBinding {name : String} {value : Value}
    {bindings : List (String × Value)} {b : String × Value}
    (h : b ∈ insertBinding name value bindings) : b.1 = name ∨ b ∈ bindings := by
  induction bindings with
  | nil => simp [insertBinding] at h; simp [h]
  | cons first rest ih =>
    rw [insertBinding] at h
    split at h
    · rcases List.mem_cons.1 h with rfl | h
      · exact .inl rfl
      · exact .inr h
    · split at h
      · rcases List.mem_cons.1 h with rfl | h
        · exact .inl rfl
        · exact .inr (List.mem_cons_of_mem _ h)
      · rcases List.mem_cons.1 h with rfl | h
        · exact .inr List.mem_cons_self
        · exact (ih h).imp_right (List.mem_cons_of_mem _)

/-- The names stay in order. -/
theorem sorted_insertBinding {name : String} {value : Value} {bindings : List (String × Value)}
    (h : bindings.Pairwise fun a b => a.1 < b.1) :
    (insertBinding name value bindings).Pairwise fun a b => a.1 < b.1 := by
  induction bindings with
  | nil => simp [insertBinding]
  | cons first rest ih =>
    obtain ⟨before, inner⟩ := List.pairwise_cons.1 h
    rw [insertBinding]
    split
    · rename_i less
      refine List.pairwise_cons.2 ⟨fun b hb => ?_, h⟩
      rcases List.mem_cons.1 hb with rfl | hb
      · exact less
      · exact String.lt_trans less (before b hb)
    · split
      · rename_i same
        exact List.pairwise_cons.2 ⟨fun b hb => same ▸ before b hb, inner⟩
      · rename_i notLess notSame
        refine List.pairwise_cons.2 ⟨fun b hb => ?_, ih inner⟩
        rcases eq_or_mem_of_mem_insertBinding hb with same | hb
        · rw [same]
          exact Std.lt_of_le_of_ne (String.not_lt.1 notLess) fun equal => notSame equal.symm
        · exact before b hb

/-- The variables of a computer, in the order of their names. -/
structure Variables where
  bindings : List (String × Value)
  sorted : bindings.Pairwise fun a b => a.1 < b.1

namespace Variables

/-- No variables. -/
def empty : Variables := ⟨[], .nil⟩

/-- The value of a variable. -/
def get? (v : Variables) (name : String) : Option Value :=
  v.bindings.lookup name

/-- Creates a variable or overwrites it. -/
def set (v : Variables) (name : String) (value : Value) : Variables :=
  ⟨insertBinding name value v.bindings, sorted_insertBinding v.sorted⟩

/-- The names of all variables, in order. -/
def names (v : Variables) : List String :=
  v.bindings.map (·.1)

/-- A variable holds what it was last set to; setting it leaves the others alone. -/
theorem get?_set (v : Variables) (name other : String) (value : Value) :
    (v.set name value).get? other = if other = name then some value else v.get? other := by
  obtain ⟨bindings, sorted⟩ := v
  simp only [get?, set]
  clear sorted
  by_cases same : other = name
  · subst same
    induction bindings with
    | nil => simp [insertBinding]
    | cons first rest ih =>
      obtain ⟨key, held⟩ := first
      rw [insertBinding]
      split
      · simp
      · split
        · simp
        · rename_i different
          have apart : (other == key) = false := by simpa using different
          simpa [List.lookup_cons, apart] using ih
  · have apart : (other == name) = false := by simpa using same
    rw [if_neg same]
    induction bindings with
    | nil => simp [insertBinding, List.lookup_cons, apart]
    | cons first rest ih =>
      obtain ⟨key, held⟩ := first
      rw [insertBinding]
      split
      · simp [List.lookup_cons, apart]
      · split
        · rename_i replaced
          have beside : (other == key) = false := replaced ▸ apart
          simp [List.lookup_cons, apart, beside]
        · simp [List.lookup_cons, ih]

end Variables

end QuantumAssembler
