import TypedMemory.Json.Reader

/-!
# Records and variants

A record is read over a default. As an object it takes each of its fields from
the member of that name: members may come in any order, a field may be missing,
members of other names are passed over, and no field may be given twice. As a
list it takes its fields in their own order, and missing ones at the end keep
their default.

A variant is one of a fixed list of names: as a string, or as the only key of an
object whose value is `null`.
-/

namespace TypedMemory

namespace Json

/-- A field of a record of type `ρ`: its name, and the reader of its value as a
change of the record. -/
structure Field (ρ : Type) where
  name : String
  reader : Reader (ρ → ρ)

/-- A field given by the reader of its values and the way to set it. -/
def Field.of {α ρ : Type} (name : String) (reader : Reader α) (set : α → ρ → ρ) : Field ρ :=
  ⟨name, reader.map set⟩

/-- Read a key from behind its opening quote. -/
def readKey (chars : List Char) : Except Fault (Option String × List Char) :=
  (readText chars).map fun (text, rest) => (some (String.ofList text), rest)

/-- Read the comma before a key and the key. -/
def readLaterKey (chars : List Char) : Except Fault (Option String × List Char) :=
  match skipSpace chars with
  | [] => .error (.pastNext .endInValue [])
  | char :: rest =>
      if char = '"' then readKey rest
      else if char = '\x7d' then .error (.pastNext .trailingComma (char :: rest))
      else .error (.pastNext .keyNotText (char :: rest))

/-- Read the next key of an object, or its end. -/
def nextKey (first : Bool) (chars : List Char) : Except Fault (Option String × List Char) :=
  match skipSpace chars with
  | [] => .error (.pastNext .endInObject [])
  | char :: rest =>
      if char = '\x7d' then .ok (none, rest)
      else if first then
        if char = '"' then readKey rest else .error (.pastNext .keyNotText (char :: rest))
      else if char = ',' then readLaterKey rest
      else .error (.pastNext .expectedObjectSeparator (char :: rest))

/-- A key leaves less behind it. -/
theorem length_of_readKey {chars rest : List Char} {key : Option String}
    (read : readKey chars = .ok (key, rest)) : rest.length < chars.length := by
  unfold readKey at read
  cases inner : readText chars with
  | error fault => simp [inner, Except.map] at read
  | ok result =>
      simp only [inner, Except.map, Except.ok.injEq, Prod.mk.injEq] at read
      rw [← read.2]
      exact length_of_readText inner

/-- A key behind a comma leaves less behind it. -/
theorem length_of_readLaterKey {chars rest : List Char} {key : Option String}
    (read : readLaterKey chars = .ok (key, rest)) : rest.length < chars.length := by
  unfold readLaterKey at read
  split at read
  · cases read
  · next found =>
      split at read
      · exact Nat.lt_trans (length_of_readKey read) (length_of_skipSpace_cons found)
      · split at read <;> cases read

/-- The next key, or the end of the object, leaves less behind it. -/
theorem length_of_nextKey {first : Bool} {chars rest : List Char} {key : Option String}
    (read : nextKey first chars = .ok (key, rest)) : rest.length < chars.length := by
  unfold nextKey at read
  split at read
  · cases read
  · next found =>
      have taken := length_of_skipSpace_cons found
      split at read
      · cases read
        exact taken
      · split at read
        · split at read
          · exact Nat.lt_trans (length_of_readKey read) taken
          · cases read
        · split at read
          · exact Nat.lt_trans (length_of_readLaterKey read) taken
          · cases read

/-- The fault of a field given twice. It is placed behind the blanks that follow
the key, and behind the end of the object if that comes next. -/
def duplicate (name : String) (chars : List Char) : Fault :=
  match skipSpace chars with
  | '\x7d' :: rest => .before (.duplicateField name) rest
  | rest => .before (.duplicateField name) rest

/-- Read the members of an object from behind its opening bracket, the fields in
`seen` having been read already. -/
def readMembers {ρ : Type} (fields : List (Field ρ)) (seen : List String) (first : Bool)
    (record : ρ) (chars : List Char) : Except Fault (ρ × List Char) :=
  match _ : nextKey first chars with
  | .error fault => .error fault
  | .ok (none, rest) => .ok (record, rest)
  | .ok (some key, rest) =>
      match fields.find? (·.name == key) with
      | none =>
          match _ : Reader.ignored.member.run rest with
          | .error fault => .error fault
          | .ok (_, rest) => readMembers fields seen false record rest
      | some field =>
          if seen.contains key then .error (duplicate key rest)
          else
            match _ : field.reader.member.run rest with
            | .error fault => .error fault
            | .ok (change, rest) => readMembers fields (key :: seen) false (change record) rest
termination_by chars.length
decreasing_by
  · exact Nat.lt_trans (Reader.ignored.member.shortens ‹_›) (length_of_nextKey ‹_›)
  · exact Nat.lt_trans (field.reader.member.shortens ‹_›) (length_of_nextKey ‹_›)

/-- The end of an object ends its members. -/
theorem readMembers_end {ρ : Type} {fields : List (Field ρ)} {seen : List String} {first : Bool}
    {record : ρ} {chars rest : List Char} (ended : nextKey first chars = .ok (none, rest)) :
    readMembers fields seen first record chars = .ok (record, rest) := by
  rw [readMembers]
  split <;> simp_all

/-- A key that cannot be read breaks the members off. -/
theorem readMembers_broken {ρ : Type} {fields : List (Field ρ)} {seen : List String}
    {first : Bool} {record : ρ} {chars : List Char} {fault : Fault}
    (broken : nextKey first chars = .error fault) :
    readMembers fields seen first record chars = .error fault := by
  rw [readMembers]
  split <;> simp_all

/-- A member that is no field is passed over. -/
theorem readMembers_other {ρ : Type} {fields : List (Field ρ)} {seen : List String}
    {first : Bool} {record : ρ} {chars rest behind : List Char} {key : String}
    (named : nextKey first chars = .ok (some key, rest))
    (other : fields.find? (·.name == key) = none)
    (passed : Reader.ignored.member.run rest = .ok ((), behind)) :
    readMembers fields seen first record chars =
      readMembers fields seen false record behind := by
  rw [readMembers]
  split
  · simp_all
  · simp_all
  · next key' rest' same =>
      rw [named] at same
      cases same
      split
      · split
        · next refused =>
            rw [passed] at refused
            cases refused
        · next again =>
            rw [passed] at again
            cases again
            rfl
      · next known =>
          rw [other] at known
          cases known

/-- A field that is given for the first time is taken. -/
theorem readMembers_field {ρ : Type} {fields : List (Field ρ)} {seen : List String}
    {first : Bool} {record : ρ} {chars rest behind : List Char} {key : String} {field : Field ρ}
    {change : ρ → ρ} (named : nextKey first chars = .ok (some key, rest))
    (known : fields.find? (·.name == key) = some field) (new : key ∉ seen)
    (taken : field.reader.member.run rest = .ok (change, behind)) :
    readMembers fields seen first record chars =
      readMembers fields (key :: seen) false (change record) behind := by
  rw [readMembers]
  split
  · simp_all
  · simp_all
  · next key' rest' same =>
      rw [named] at same
      cases same
      split
      · next other =>
          rw [known] at other
          cases other
      · next field' same =>
          rw [known] at same
          cases same
          simp only [List.contains_iff_mem, new, ↓reduceIte]
          split
          · next refused =>
              rw [taken] at refused
              cases refused
          · next again =>
              rw [taken] at again
              cases again
              rfl

/-- A field whose value is refused is refused. -/
theorem readMembers_refused {ρ : Type} {fields : List (Field ρ)} {seen : List String}
    {first : Bool} {record : ρ} {chars rest : List Char} {key : String} {field : Field ρ}
    {fault : Fault} (named : nextKey first chars = .ok (some key, rest))
    (known : fields.find? (·.name == key) = some field) (new : key ∉ seen)
    (refused : field.reader.member.run rest = .error fault) :
    readMembers fields seen first record chars = .error fault := by
  rw [readMembers]
  split
  · simp_all
  · simp_all
  · next key' rest' same =>
      rw [named] at same
      cases same
      split
      · next other =>
          rw [known] at other
          cases other
      · next field' same =>
          rw [known] at same
          cases same
          simp only [List.contains_iff_mem, new, ↓reduceIte]
          split
          · next again =>
              rw [refused] at again
              cases again
              rfl
          · next taken =>
              rw [refused] at taken
              cases taken

/-- A field that is given again is refused. -/
theorem readMembers_duplicate {ρ : Type} {fields : List (Field ρ)} {seen : List String}
    {first : Bool} {record : ρ} {chars rest : List Char} {key : String} {field : Field ρ}
    (named : nextKey first chars = .ok (some key, rest))
    (known : fields.find? (·.name == key) = some field) (again : key ∈ seen) :
    readMembers fields seen first record chars = .error (duplicate key rest) := by
  rw [readMembers]
  split
  · simp_all
  · simp_all
  · next key' rest' same =>
      rw [named] at same
      cases same
      split
      · next other =>
          rw [known] at other
          cases other
      · simp [again]

/-- The members of an object leave less behind them. -/
theorem length_of_readMembers {ρ : Type} {fields : List (Field ρ)} {seen : List String}
    {first : Bool} {record result : ρ} {chars rest : List Char}
    (read : readMembers fields seen first record chars = .ok (result, rest)) :
    rest.length < chars.length := by
  fun_induction readMembers fields seen first record chars with
  | case1 => cases read
  | case2 =>
      rename_i key
      cases read
      exact length_of_nextKey key
  | case3 => cases read
  | case4 =>
      rename_i key _ _ _ ignored ih
      exact Nat.lt_trans (ih read)
        (Nat.lt_trans (Reader.ignored.member.shortens ignored) (length_of_nextKey key))
  | case5 => cases read
  | case6 => cases read
  | case7 =>
      rename_i key field _ _ _ _ value ih
      exact Nat.lt_trans (ih read)
        (Nat.lt_trans (field.reader.member.shortens value) (length_of_nextKey key))

/-- Whether a list has another element, which then stands at the front of what is
left. -/
def nextElement (first : Bool) (chars : List Char) : Except Fault (Bool × List Char) :=
  match skipSpace chars with
  | [] => .error (.pastNext .endInList [])
  | char :: rest =>
      if char = ']' then .ok (false, char :: rest)
      else if first then .ok (true, char :: rest)
      else if char = ',' then
        match skipSpace rest with
        | [] => .error (.pastNext .endInValue [])
        | next :: behind =>
            if next = ']' then .error (.pastNext .trailingComma (next :: behind))
            else .ok (true, next :: behind)
      else .error (.pastNext .expectedListSeparator (char :: rest))

/-- Read the end of a list. -/
def closeList (chars : List Char) : Except Fault (List Char) :=
  match skipSpace chars with
  | [] => .error (.pastNext .endInList [])
  | char :: rest =>
      if char = ']' then .ok rest
      else if char = ',' then
        match skipSpace rest with
        | ']' :: behind => .error (.pastNext .trailingComma (']' :: behind))
        | behind => .error (.pastNext .trailingCharacters behind)
      else .error (.pastNext .trailingCharacters (char :: rest))

/-- Read the elements of a list from behind its opening bracket as the fields of
a record. -/
def readElements {ρ : Type} (fields : List (Field ρ)) (first : Bool) (record : ρ)
    (chars : List Char) : Except Fault (ρ × List Char) :=
  match fields with
  | [] => (closeList chars).map (record, ·)
  | field :: fields =>
      match nextElement first chars with
      | .error fault => .error fault
      | .ok (false, rest) => (closeList rest).map (record, ·)
      | .ok (true, rest) =>
          match field.reader.run rest with
          | .error fault => .error fault
          | .ok (change, rest) => readElements fields false (change record) rest

/-- Looking for an element never lengthens what is left. -/
theorem length_of_nextElement {first more : Bool} {chars rest : List Char}
    (read : nextElement first chars = .ok (more, rest)) : rest.length ≤ chars.length := by
  have blanks := length_skipSpace_le chars
  unfold nextElement at read
  split at read
  · cases read
  · next char behind found =>
      rw [found] at blanks
      split at read
      · cases read
        exact blanks
      · split at read
        · cases read
          exact blanks
        · split at read
          · split at read
            · cases read
            · next further =>
                have deeper := length_skipSpace_le behind
                rw [further] at deeper
                split at read <;> cases read
                exact Nat.le_trans deeper (Nat.le_of_succ_le blanks)
          · cases read

/-- The end of a list leaves less behind it. -/
theorem length_of_closeList {chars rest : List Char}
    (closed : closeList chars = .ok rest) : rest.length < chars.length := by
  unfold closeList at closed
  split at closed
  · cases closed
  · next found =>
      split at closed
      · cases closed
        exact length_of_skipSpace_cons found
      · split at closed
        · split at closed <;> cases closed
        · cases closed

/-- The end of a list leaves less behind it, whatever the result. -/
theorem length_of_closeList_map {ρ : Type} {record result : ρ} {chars rest : List Char}
    (closed : (closeList chars).map (record, ·) = .ok (result, rest)) :
    rest.length < chars.length := by
  cases inner : closeList chars with
  | error fault => simp [inner, Except.map] at closed
  | ok behind =>
      simp only [inner, Except.map, Except.ok.injEq, Prod.mk.injEq] at closed
      rw [← closed.2]
      exact length_of_closeList inner

/-- The elements of a list leave less behind them. -/
theorem length_of_readElements {ρ : Type} {fields : List (Field ρ)} {first : Bool}
    {record result : ρ} {chars rest : List Char}
    (read : readElements fields first record chars = .ok (result, rest)) :
    rest.length < chars.length := by
  induction fields generalizing first record chars with
  | nil =>
      unfold readElements at read
      exact length_of_closeList_map read
  | cons field fields ih =>
      unfold readElements at read
      split at read
      · cases read
      · next element =>
          exact Nat.lt_of_lt_of_le (length_of_closeList_map read) (length_of_nextElement element)
      · next element =>
          split at read
          · cases read
          · next value =>
              exact Nat.lt_of_lt_of_le
                (Nat.lt_trans (ih read) (field.reader.shortens value))
                (length_of_nextElement element)

/-- Read a record over a default. -/
def recordRun {ρ : Type} (title : String) (fields : List (Field ρ)) (record : ρ)
    (chars : List Char) : Except Fault (ρ × List Char) :=
  match skipSpace chars with
  | [] => .error (.pastNext .endInValue [])
  | char :: rest =>
      if char = '[' then readElements fields true record rest
      else if char = '\x7b' then readMembers fields [] true record rest
      else .error (mismatch ("struct " ++ title) (char :: rest))

/-- A record leaves less behind it. -/
theorem length_of_recordRun {ρ : Type} {title : String} {fields : List (Field ρ)}
    {record result : ρ} {chars rest : List Char}
    (read : recordRun title fields record chars = .ok (result, rest)) :
    rest.length < chars.length := by
  unfold recordRun at read
  split at read
  · cases read
  · next found =>
      have taken := length_of_skipSpace_cons found
      split at read
      · exact Nat.lt_trans (length_of_readElements read) taken
      · split at read
        · exact Nat.lt_trans (length_of_readMembers read) taken
        · cases read

/-- The reader of a record over a default. -/
def Reader.record {ρ : Type} (title : String) (fields : List (Field ρ)) (default : ρ) :
    Reader ρ where
  run := recordRun title fields default
  shortens := length_of_recordRun

/-- Read the name of a variant from behind its opening quote. -/
def readVariantName {α : Type} (variants : List (String × α)) (chars : List Char) :
    Except Fault (α × List Char) :=
  match readText chars with
  | .error fault => .error fault
  | .ok (text, rest) =>
      match variants.lookup (String.ofList text) with
      | some value => .ok (value, rest)
      | none =>
          .error (.before (.unknownVariant (String.ofList text) (variants.map Prod.fst)) rest)

/-- Read the `null` that is the value of a variant written as an object. -/
def readUnit (chars : List Char) : Except Fault (List Char) :=
  match skipSpace chars with
  | [] => .error (.pastNext .endInValue [])
  | char :: rest =>
      if char = 'n' then readWord ['u', 'l', 'l'] rest
      else .error (mismatch "unit" (char :: rest))

/-- Read the end of a variant written as an object. -/
def closeVariant (chars : List Char) : Except Fault (List Char) :=
  match skipSpace chars with
  | [] => .error (.before .endInObject [])
  | char :: rest =>
      if char = '\x7d' then .ok rest else .error (.before .expectedValue (char :: rest))

/-- Read a variant written as an object, from behind the opening bracket. -/
def readVariantObject {α : Type} (variants : List (String × α)) (chars : List Char) :
    Except Fault (α × List Char) :=
  match skipSpace chars with
  | [] => .error (.pastNext .endInObject [])
  | char :: rest =>
      if char = '"' then do
        let (value, rest) ← readVariantName variants rest
        let rest ← skipColon rest
        let rest ← readUnit rest
        let rest ← closeVariant rest
        return (value, rest)
      else if char = '\x7d' then .error (.pastNext .expectedValue (char :: rest))
      else .error (.pastNext .keyNotText (char :: rest))

/-- Read a variant, by its name or as an object. -/
def readVariant {α : Type} (variants : List (String × α)) (chars : List Char) :
    Except Fault (α × List Char) :=
  match skipSpace chars with
  | [] => .error (.pastNext .endInValue [])
  | char :: rest =>
      if char = '"' then readVariantName variants rest
      else if char = '\x7b' then readVariantObject variants rest
      else .error (.pastNext .expectedValue (char :: rest))

end Json

end TypedMemory
