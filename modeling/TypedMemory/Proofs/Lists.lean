/-!
# What lists hold after a change

Readings of a list at an index, or through a filter, after an element was added at
the end, replaced, or changed.
-/

namespace TypedMemory

variable {α β : Type}

/-- A reading of a longer list ends with what the last element gives. -/
theorem filterMap_concat (read : α → Option β) (list : List α) (last : α) :
    (list ++ [last]).filterMap read = list.filterMap read ++ (read last).toList := by
  rw [List.filterMap_append]
  cases told : read last <;> simp [told]

/-- What is found in a longer list was there or is the last element. -/
theorem getElem?_concat_cases {list : List α} {last found : α} {index : Nat}
    (held : (list ++ [last])[index]? = some found) :
    list[index]? = some found ∨ index = list.length ∧ last = found := by
  rcases Nat.lt_trichotomy index list.length with inside | rfl | beyond
  · rw [List.getElem?_append_left inside] at held
    exact .inl held
  · rw [List.getElem?_concat_length] at held
    cases held
    exact .inr ⟨rfl, rfl⟩
  · have bound := (List.getElem?_eq_some_iff.mp held).1
    rw [List.length_append, List.length_singleton] at bound
    omega

/-- What is found after a replacement was there or is the replacement. -/
theorem getElem?_set_cases {list : List α} {new found : α} {index other : Nat}
    (held : (list.set index new)[other]? = some found) :
    list[other]? = some found ∨ index = other ∧ new = found := by
  rw [List.getElem?_set] at held
  split at held
  · next same =>
      split at held
      · cases held
        exact .inr ⟨same, rfl⟩
      · cases held
  · exact .inl held

/-- What is found after a change was there, elsewhere, or is what the change made. -/
theorem getElem?_modify_cases {list : List α} {index other : Nat} {change : α → α} {found : α}
    (held : (list.modify index change)[other]? = some found) :
    (index ≠ other ∧ list[other]? = some found) ∨
      ∃ old, index = other ∧ list[index]? = some old ∧ found = change old := by
  rw [List.getElem?_modify] at held
  by_cases same : index = other
  · subst same
    obtain ⟨old, present, changed⟩ := Option.map_eq_some_iff.mp held
    exact .inr ⟨old, rfl, present, by simpa using changed.symm⟩
  · left
    refine ⟨same, ?_⟩
    simpa [same] using held

end TypedMemory
