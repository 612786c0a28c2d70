import TypedMemory.ElementType

/-!
# Reading names of entry points

The name of an entry point tells its stem, its element type and its operation
apart, whatever the stem is (`symbolName_inj`): no ending of a name is the ending
of another one.
-/

namespace TypedMemory

/-- What follows the stem in the name of an entry point. -/
def symbolEnding (type : ElementType) (operation : Operation) : List Char :=
  (type.code ++ "_" ++ operation.suffix).toList

/-- A name is the stem followed by an ending that depends on type and operation only. -/
theorem symbolName_toList (stem : String) (type : ElementType) (operation : Operation) :
    (symbolName stem type operation).toList = stem.toList ++ symbolEnding type operation := by
  unfold symbolName symbolEnding
  simp only [String.toList_append, List.append_assoc]

/-- Every type with every operation. -/
def symbolKinds : List (ElementType × Operation) :=
  ElementType.all.flatMap fun type => [(type, .alloc), (type, .dealloc)]

/-- There are no other kinds than those that are listed. -/
theorem mem_symbolKinds (type : ElementType) (operation : Operation) :
    (type, operation) ∈ symbolKinds := by
  cases type <;> cases operation <;> decide

/-- No ending is the ending of another. -/
theorem symbolEnding_suffix {type type' : ElementType} {operation operation' : Operation}
    (suffix : symbolEnding type operation <:+ symbolEnding type' operation') :
    type = type' ∧ operation = operation' := by
  have apart : ∀ short ∈ symbolKinds, ∀ long ∈ symbolKinds,
      symbolEnding short.1 short.2 <:+ symbolEnding long.1 long.2 → short = long := by
    decide +kernel
  have same := apart _ (mem_symbolKinds type operation) _ (mem_symbolKinds type' operation')
    suffix
  cases same
  exact ⟨rfl, rfl⟩

/-- Equal names have equal parts. -/
theorem symbolName_inj {stem stem' : String} {type type' : ElementType}
    {operation operation' : Operation}
    (same : symbolName stem type operation = symbolName stem' type' operation') :
    stem = stem' ∧ type = type' ∧ operation = operation' := by
  have characters := congrArg String.toList same
  rw [symbolName_toList, symbolName_toList] at characters
  have first : symbolEnding type operation <:+ stem'.toList ++ symbolEnding type' operation' :=
    ⟨_, characters⟩
  have second : symbolEnding type' operation' <:+ stem'.toList ++ symbolEnding type' operation' :=
    ⟨_, rfl⟩
  have parts : type = type' ∧ operation = operation' := by
    rcases Nat.le_total (symbolEnding type operation).length
      (symbolEnding type' operation').length with shorter | longer
    · exact symbolEnding_suffix (List.suffix_of_suffix_length_le first second shorter)
    · have parts := symbolEnding_suffix (List.suffix_of_suffix_length_le second first longer)
      exact ⟨parts.1.symm, parts.2.symm⟩
  obtain ⟨rfl, rfl⟩ := parts
  exact ⟨String.toList_inj.mp (List.append_cancel_right characters), rfl, rfl⟩

end TypedMemory
