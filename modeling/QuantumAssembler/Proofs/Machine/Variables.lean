import QuantumAssembler.Machine.Variables

/-!
Module: QuantumAssembler.Proofs.Machine.Variables
Purpose: Variables are told apart by their values only: two sets of variables in which each name has
  the same value are equal, because the names are kept in order. So the last value that a variable
  is set to is all that counts.
Main exports: eq_of_lookup_eq, Variables.ext_of_get?, Variables.set_set
-/

namespace QuantumAssembler

/-- A name in front of all that are listed is not listed. -/
theorem lookup_eq_none_of_lt {name : String} {bindings : List (String × Value)}
    (before : ∀ b ∈ bindings, name < b.1) : bindings.lookup name = none := by
  apply List.lookup_eq_none_iff.mpr
  intro b member
  have apart : name ≠ b.1 := by
    intro same
    exact String.lt_irrefl name (same ▸ before b member)
  simpa using apart

/-- In a list in the order of names, a name that stands in front of the first is not listed. -/
theorem lookup_cons_eq_none_of_lt {name : String} {first : String × Value}
    {rest : List (String × Value)} (sorted : (first :: rest).Pairwise fun a b => a.1 < b.1)
    (before : name < first.1) : (first :: rest).lookup name = none := by
  obtain ⟨behind, -⟩ := List.pairwise_cons.mp sorted
  apply lookup_eq_none_of_lt
  intro b member
  rcases List.mem_cons.mp member with rfl | member
  · exact before
  · exact String.lt_trans before (behind b member)

/-- Lists in the order of names are equal if every name is bound alike in both. -/
theorem eq_of_lookup_eq {bindings others : List (String × Value)}
    (sorted : bindings.Pairwise fun a b => a.1 < b.1)
    (sortedOthers : others.Pairwise fun a b => a.1 < b.1)
    (same : ∀ name, bindings.lookup name = others.lookup name) : bindings = others := by
  induction bindings generalizing others with
  | nil =>
      cases others with
      | nil => rfl
      | cons b rest =>
          obtain ⟨name, held⟩ := b
          simpa using same name
  | cons a rest ih =>
      cases others with
      | nil =>
          obtain ⟨name, held⟩ := a
          simpa using same name
      | cons b more =>
          -- The smaller of the two first names would be bound in one list only.
          have names : a.1 = b.1 := by
            by_cases less : a.1 < b.1
            · have missing := lookup_cons_eq_none_of_lt sortedOthers less
              rw [← same a.1] at missing
              simp at missing
            · by_cases greater : b.1 < a.1
              · have missing := lookup_cons_eq_none_of_lt sorted greater
                rw [same b.1] at missing
                simp at missing
              · exact String.le_antisymm (String.not_lt.mp greater) (String.not_lt.mp less)
          obtain ⟨name, value⟩ := a
          obtain ⟨other, held⟩ := b
          obtain rfl : name = other := names
          obtain rfl : value = held := by simpa using same name
          obtain ⟨behind, inner⟩ := List.pairwise_cons.mp sorted
          obtain ⟨behindOthers, innerOthers⟩ := List.pairwise_cons.mp sortedOthers
          congr 1
          apply ih inner innerOthers
          intro wanted
          by_cases first : wanted = name
          · rw [first, lookup_eq_none_of_lt behind, lookup_eq_none_of_lt behindOthers]
          · have apart : (wanted == name) = false := by simpa using first
            simpa [List.lookup_cons, apart] using same wanted

namespace Variables

/-- Variables with the same values are the same. -/
theorem ext_of_get? {v w : Variables} (same : ∀ name, v.get? name = w.get? name) : v = w := by
  obtain ⟨bindings, sorted⟩ := v
  obtain ⟨others, sortedOthers⟩ := w
  obtain rfl : bindings = others := eq_of_lookup_eq sorted sortedOthers same
  rfl

/-- Of two values that a variable is set to, the second counts. -/
theorem set_set (v : Variables) (name : String) (first second : Value) :
    (v.set name first).set name second = v.set name second := by
  apply ext_of_get?
  intro other
  simp only [get?_set]
  split <;> rfl

end Variables

end QuantumAssembler
