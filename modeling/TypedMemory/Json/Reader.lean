import TypedMemory.Json.Skip

/-!
# Readers

A reader takes a value off the front of a document. Every reader takes at least
one character, which is what lets the readers of lists and objects go on for as
long as there is something to read. The readers here are those of single values;
each says what it expects, and that is what a document with something else in
its place is told.
-/

namespace TypedMemory

namespace Json

/-- A reader of values of type `α`: from what is left of a document, a value and
what is left behind it. -/
structure Reader (α : Type) where
  run : List Char → Except Fault (α × List Char)
  shortens : ∀ {chars : List Char} {value : α} {rest : List Char},
    run chars = .ok (value, rest) → rest.length < chars.length

/-- The value of a numeral, as something found where it was not expected. -/
def foundNumeral (negative : Bool) (chars : List Char) : Except Fault (Found × List Char) := do
  let (numeral, rest) ← Numeral.scan .endInValue negative chars
  let found ← numeral.value rest
  return (found, rest)

/-- What stands at the front of a document, and what is left behind it. A list or
an object is not entered. -/
def find : List Char → Except Fault (Found × List Char)
  | 'n' :: rest => (readWord ['u', 'l', 'l'] rest).map (Found.null, ·)
  | 't' :: rest => (readWord ['r', 'u', 'e'] rest).map (Found.boolean true, ·)
  | 'f' :: rest => (readWord ['a', 'l', 's', 'e'] rest).map (Found.boolean false, ·)
  | '"' :: rest => (readText rest).map fun (text, rest) => (.text (String.ofList text), rest)
  | '-' :: rest => foundNumeral true rest
  | '[' :: rest => .ok (.sequence, '[' :: rest)
  | '\x7b' :: rest => .ok (.mapping, '\x7b' :: rest)
  | chars =>
      if (chars.head?.any Char.isDigit) then foundNumeral false chars
      else .error (.pastNext .expectedValue chars)

/-- The fault of a document whose front is not what was expected. -/
def mismatch (expected : String) (chars : List Char) : Fault :=
  match find chars with
  | .error fault => fault
  | .ok (found, rest) => .before (.invalidType found expected) rest

namespace Reader

/-- Read a value and apply a function to it. -/
def mapRun {α β : Type} (reader : Reader α) (f : α → β) (chars : List Char) :
    Except Fault (β × List Char) :=
  (reader.run chars).map fun (value, rest) => (f value, rest)

/-- A value leaves less behind it, whatever is then made of it. -/
theorem length_of_mapRun {α β : Type} {reader : Reader α} {f : α → β} {chars rest : List Char}
    {value : β} (read : mapRun reader f chars = .ok (value, rest)) :
    rest.length < chars.length := by
  unfold mapRun at read
  cases inner : reader.run chars with
  | error fault => simp [inner, Except.map] at read
  | ok result =>
      simp only [inner, Except.map, Except.ok.injEq, Prod.mk.injEq] at read
      rw [← read.2]
      exact reader.shortens inner

/-- Apply a function to what is read. -/
def map {α β : Type} (reader : Reader α) (f : α → β) : Reader β where
  run := mapRun reader f
  shortens := length_of_mapRun

/-- Read a string. -/
def textRun (expected : String) (chars : List Char) : Except Fault (String × List Char) :=
  match skipSpace chars with
  | [] => .error (.pastNext .endInValue [])
  | char :: rest =>
      if char = '"' then (readText rest).map fun (text, rest) => (String.ofList text, rest)
      else .error (mismatch expected (char :: rest))

/-- A string leaves less behind it. -/
theorem length_of_textRun {expected value : String} {chars rest : List Char}
    (read : textRun expected chars = .ok (value, rest)) : rest.length < chars.length := by
  unfold textRun at read
  split at read
  · cases read
  · next char behind found =>
      have taken := length_of_skipSpace_cons found
      split at read
      · cases inner : readText behind with
        | error fault => simp [inner, Except.map] at read
        | ok result =>
            simp only [inner, Except.map, Except.ok.injEq, Prod.mk.injEq] at read
            have shorter := length_of_readText inner
            rw [← read.2]
            exact Nat.lt_trans shorter taken
      · cases read

/-- The reader of strings. -/
def text (expected : String) : Reader String where
  run := textRun expected
  shortens := length_of_textRun

/-- Read a truth value. -/
def flagRun (chars : List Char) : Except Fault (Bool × List Char) :=
  match skipSpace chars with
  | [] => .error (.pastNext .endInValue [])
  | char :: rest =>
      if char = 't' then (readWord ['r', 'u', 'e'] rest).map (true, ·)
      else if char = 'f' then (readWord ['a', 'l', 's', 'e'] rest).map (false, ·)
      else .error (mismatch "a boolean" (char :: rest))

/-- A word followed by a constant result leaves no more than was there. -/
theorem length_of_readWord_map {α : Type} {letters chars rest : List Char} {result value : α}
    (read : (readWord letters chars).map (result, ·) = .ok (value, rest)) :
    rest.length ≤ chars.length := by
  cases word : readWord letters chars with
  | error fault => simp [word, Except.map] at read
  | ok behind =>
      simp only [word, Except.map, Except.ok.injEq, Prod.mk.injEq] at read
      rw [← read.2]
      exact length_of_readWord word

/-- A truth value leaves less behind it. -/
theorem length_of_flagRun {chars rest : List Char} {value : Bool}
    (read : flagRun chars = .ok (value, rest)) : rest.length < chars.length := by
  unfold flagRun at read
  split at read
  · cases read
  · next found =>
      have taken := length_of_skipSpace_cons found
      split at read
      · exact Nat.lt_of_le_of_lt (length_of_readWord_map read) taken
      · split at read
        · exact Nat.lt_of_le_of_lt (length_of_readWord_map read) taken
        · cases read

/-- The reader of truth values. -/
def flag : Reader Bool where
  run := flagRun
  shortens := length_of_flagRun

/-- Read `null`, or else a value. -/
def nullableRun {α : Type} (reader : Reader α) (chars : List Char) :
    Except Fault (Option α × List Char) :=
  match skipSpace chars with
  | [] => mapRun reader some []
  | char :: rest =>
      if char = 'n' then (readWord ['u', 'l', 'l'] rest).map (none, ·)
      else mapRun reader some (char :: rest)

/-- A value that may be `null` leaves less behind it. -/
theorem length_of_nullableRun {α : Type} {reader : Reader α} {chars rest : List Char}
    {value : Option α} (read : nullableRun reader chars = .ok (value, rest)) :
    rest.length < chars.length := by
  have blanks := length_skipSpace_le chars
  unfold nullableRun at read
  split at read
  · exact absurd (length_of_mapRun read) (Nat.not_lt_zero _)
  · next char behind found =>
      split at read
      · exact Nat.lt_of_le_of_lt (length_of_readWord_map read) (length_of_skipSpace_cons found)
      · have shorter := length_of_mapRun read
        rw [← found] at shorter
        exact Nat.lt_of_lt_of_le shorter blanks

/-- The reader of values that may be `null`. -/
def nullable {α : Type} (reader : Reader α) : Reader (Option α) where
  run := nullableRun reader
  shortens := length_of_nullableRun

/-- Pass over any value. -/
def ignoredRun (chars : List Char) : Except Fault (Unit × List Char) :=
  (skipValue chars).map ((), ·)

/-- A value that is passed over leaves less behind it. -/
theorem length_of_ignoredRun {chars rest : List Char} {value : Unit}
    (read : ignoredRun chars = .ok (value, rest)) : rest.length < chars.length := by
  unfold ignoredRun at read
  cases skipped : skipValue chars with
  | error fault => simp [skipped, Except.map] at read
  | ok behind =>
      simp only [skipped, Except.map, Except.ok.injEq, Prod.mk.injEq] at read
      rw [← read.2]
      exact length_of_skipValue skipped

/-- The reader that passes over any value. -/
def ignored : Reader Unit where
  run := ignoredRun
  shortens := length_of_ignoredRun

/-- Read the value of a member, from behind its key. -/
def memberRun {α : Type} (reader : Reader α) (chars : List Char) :
    Except Fault (α × List Char) :=
  (skipColon chars).bind reader.run

/-- The value of a member leaves less behind it. -/
theorem length_of_memberRun {α : Type} {reader : Reader α} {chars rest : List Char} {value : α}
    (read : memberRun reader chars = .ok (value, rest)) : rest.length < chars.length := by
  unfold memberRun at read
  cases colon : skipColon chars with
  | error fault => simp [colon, Except.bind] at read
  | ok behind =>
      simp only [colon, Except.bind] at read
      exact Nat.lt_trans (reader.shortens read) (length_of_skipColon colon)

/-- The reader of a member's value, with the colon before it. -/
def member {α : Type} (reader : Reader α) : Reader α where
  run := memberRun reader
  shortens := length_of_memberRun

end Reader

/-- Read a whole document: a value with nothing but blanks behind it. -/
def readDocument {α : Type} (run : List Char → Except Fault (α × List Char)) (document : String) :
    Except Fault α :=
  match run document.toList with
  | .error fault => .error fault
  | .ok (value, rest) =>
      match skipSpace rest with
      | [] => .ok value
      | rest => .error (.pastNext .trailingCharacters rest)

end Json

end TypedMemory
