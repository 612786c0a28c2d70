import TypedMemory.Json.Numeral
import TypedMemory.Json.Text

/-!
# Skipping blanks and values

Only four characters may stand between the tokens of a document. A member that
nobody asked for is still checked for its shape, to any depth, and its value is
then passed over. The check walks the document once and keeps the brackets that
are open; what may stand next depends on the phase and on the innermost bracket.
-/

namespace TypedMemory

namespace Json

/-- Whether a character may stand between two tokens. -/
def isSpace (char : Char) : Bool :=
  char = ' ' || char = '\n' || char = '\t' || char = '\r'

/-- What follows the blanks at the front. -/
def skipSpace (chars : List Char) : List Char :=
  chars.dropWhile isSpace

/-- Skipping blanks never lengthens what is left. -/
theorem length_skipSpace_le (chars : List Char) :
    (skipSpace chars).length ≤ chars.length :=
  (List.dropWhile_sublist isSpace).length_le

/-- Behind the blanks and one more character less is left. -/
theorem length_of_skipSpace_cons {chars rest : List Char} {char : Char}
    (found : skipSpace chars = char :: rest) : rest.length < chars.length := by
  have blanks := length_skipSpace_le chars
  rw [found, List.length_cons] at blanks
  exact blanks

/-- Read the remaining letters of a word. -/
def readWord : List Char → List Char → Except Fault (List Char)
  | [], rest => .ok rest
  | _ :: _, [] => .error (.before .endInValue [])
  | letter :: letters, char :: rest =>
      if char = letter then readWord letters rest
      else .error (.pastNext .expectedWord (char :: rest))

/-- A word never lengthens what is left. -/
theorem length_of_readWord {letters chars rest : List Char}
    (read : readWord letters chars = .ok rest) : rest.length ≤ chars.length := by
  induction letters generalizing chars with
  | nil =>
      cases chars <;> cases read <;> exact Nat.le_refl _
  | cons letter letters ih =>
      cases chars with
      | nil => cases read
      | cons char chars =>
          unfold readWord at read
          split at read
          · exact Nat.le_succ_of_le (ih read)
          · cases read

/-- Skip a value that is neither a list nor an object. -/
def skipScalar : List Char → Except Fault (List Char)
  | 'n' :: rest => readWord ['u', 'l', 'l'] rest
  | 't' :: rest => readWord ['r', 'u', 'e'] rest
  | 'f' :: rest => readWord ['a', 'l', 's', 'e'] rest
  | '"' :: rest => skipText rest
  | '-' :: rest => (Numeral.scan .invalidNumber true rest).map Prod.snd
  | chars =>
      if (chars.head?.any Char.isDigit) then
        (Numeral.scan .invalidNumber false chars).map Prod.snd
      else .error (.pastNext .expectedValue chars)

/-- A scanned numeral leaves less behind it, its value forgotten. -/
theorem length_of_scan_rest {atEnd : Cause} {negative : Bool} {chars rest : List Char}
    (scanned : (Numeral.scan atEnd negative chars).map Prod.snd = .ok rest) :
    rest.length < chars.length := by
  cases numeral : Numeral.scan atEnd negative chars with
  | error fault => simp [numeral, Except.map] at scanned
  | ok result =>
      simp only [numeral, Except.map, Except.ok.injEq] at scanned
      subst scanned
      exact Numeral.length_of_scan numeral

/-- A skipped scalar leaves less behind it. -/
theorem length_of_skipScalar {chars rest : List Char}
    (skipped : skipScalar chars = .ok rest) : rest.length < chars.length := by
  unfold skipScalar at skipped
  split at skipped
  · exact Nat.lt_succ_of_le (length_of_readWord skipped)
  · exact Nat.lt_succ_of_le (length_of_readWord skipped)
  · exact Nat.lt_succ_of_le (length_of_readWord skipped)
  · exact Nat.lt_succ_of_lt (length_of_skipText skipped)
  · exact Nat.lt_succ_of_lt (length_of_scan_rest skipped)
  · split at skipped
    · exact length_of_scan_rest skipped
    · cases skipped

/-- An open bracket. -/
inductive Bracket where
  | list
  | object
deriving Repr, DecidableEq

namespace Bracket

/-- The character that closes a bracket. -/
def closing : Bracket → Char
  | .list => ']'
  | .object => '\x7d'

/-- What is reported when the document ends inside a bracket. -/
def atEnd : Bracket → Cause
  | .list => .endInList
  | .object => .endInObject

/-- What is reported when an element is followed by neither a comma nor the
closing bracket. -/
def separatorExpected : Bracket → Cause
  | .list => .expectedListSeparator
  | .object => .expectedObjectSeparator

end Bracket

/-- Where a skip stands. -/
inductive SkipPhase where
  /-- A value must follow. -/
  | value
  /-- A bracket was just opened: its first element or its end must follow. -/
  | opened
  /-- A value was just passed. -/
  | passed
  /-- The key of a member must follow. -/
  | key
deriving Repr, DecidableEq

/-- The phase in which the next element of a bracket is expected. -/
def Bracket.element : Bracket → SkipPhase
  | .list => .value
  | .object => .key

/-- Phases that look ahead without taking a character rank above the phases they
hand over to. -/
def SkipPhase.rank : SkipPhase → Nat
  | .opened => 1
  | _ => 0

@[simp] theorem Bracket.rank_element (bracket : Bracket) : bracket.element.rank = 0 := by
  cases bracket <;> rfl

/-- Skip the colon behind a key. -/
def skipColon (chars : List Char) : Except Fault (List Char) :=
  match skipSpace chars with
  | [] => .error (.pastNext .endInObject [])
  | char :: rest =>
      if char = ':' then .ok rest else .error (.pastNext .expectedColon (char :: rest))

/-- A colon leaves less behind it. -/
theorem length_of_skipColon {chars rest : List Char}
    (skipped : skipColon chars = .ok rest) : rest.length < chars.length := by
  unfold skipColon at skipped
  split at skipped
  · cases skipped
  · next found =>
      split at skipped <;> cases skipped
      exact length_of_skipSpace_cons found

/-- Skip a key and its colon inside an object that is passed over. -/
def skipKey (chars : List Char) : Except Fault (List Char) :=
  match skipSpace chars with
  | [] => .error (.pastNext .endInObject [])
  | char :: rest =>
      if char = '"' then (skipText rest).bind skipColon
      else .error (.pastNext .keyNotText (char :: rest))

/-- A key leaves less behind it. -/
theorem length_of_skipKey {chars rest : List Char}
    (skipped : skipKey chars = .ok rest) : rest.length < chars.length := by
  unfold skipKey at skipped
  split at skipped
  · cases skipped
  · next char behind found =>
      have quoted := length_of_skipSpace_cons found
      split at skipped
      · cases text : skipText behind with
        | error fault => simp [text, Except.bind] at skipped
        | ok afterText =>
            have first := length_of_skipText text
            simp only [text, Except.bind] at skipped
            have second := length_of_skipColon skipped
            omega
      · cases skipped

/-- Skip on from a phase until every bracket on the stack is closed. -/
def skipFrom (phase : SkipPhase) (stack : List Bracket) (chars : List Char) :
    Except Fault (List Char) :=
  match phase, stack with
  | .value, stack =>
      match _ : skipSpace chars with
      | [] => .error (.pastNext .endInValue [])
      | '[' :: rest => skipFrom .opened (.list :: stack) rest
      | '\x7b' :: rest => skipFrom .opened (.object :: stack) rest
      | rest =>
          match _ : skipScalar rest with
          | .error fault => .error fault
          | .ok behind => skipFrom .passed stack behind
  | .key, stack =>
      match _ : skipKey chars with
      | .error fault => .error fault
      | .ok rest => skipFrom .value stack rest
  | .passed, [] => .ok chars
  | .opened, [] => .ok chars
  | .opened, bracket :: outer =>
      match _ : skipSpace chars with
      | [] => .error (.pastNext bracket.atEnd [])
      | char :: rest =>
          if char = bracket.closing then skipFrom .passed outer rest
          else skipFrom bracket.element (bracket :: outer) (char :: rest)
  | .passed, bracket :: outer =>
      match _ : skipSpace chars with
      | [] => .error (.pastNext bracket.atEnd [])
      | char :: rest =>
          if char = ',' then skipFrom bracket.element (bracket :: outer) rest
          else if char = bracket.closing then skipFrom .passed outer rest
          else .error (.pastNext bracket.separatorExpected (char :: rest))
termination_by 2 * chars.length + phase.rank
decreasing_by
  · have shorter := length_of_skipSpace_cons ‹_›
    simp only [SkipPhase.rank]
    omega
  · have shorter := length_of_skipSpace_cons ‹_›
    simp only [SkipPhase.rank]
    omega
  · have blanks := length_skipSpace_le chars
    have scalar := length_of_skipScalar ‹_›
    simp_all only [SkipPhase.rank]
    omega
  · have key := length_of_skipKey ‹_›
    simp only [SkipPhase.rank]
    omega
  · have shorter := length_of_skipSpace_cons ‹_›
    simp only [SkipPhase.rank]
    omega
  · have shorter := length_of_skipSpace_cons ‹_›
    rw [Bracket.rank_element]
    simp only [SkipPhase.rank, List.length_cons]
    omega
  · have shorter := length_of_skipSpace_cons ‹_›
    rw [Bracket.rank_element]
    simp only [SkipPhase.rank]
    omega
  · have shorter := length_of_skipSpace_cons ‹_›
    simp only [SkipPhase.rank]
    omega

/-- With no bracket open, a value that was passed ends the skip. -/
@[simp] theorem skipFrom_passed_nil (chars : List Char) :
    skipFrom .passed [] chars = .ok chars := by
  rw [skipFrom]

/-- A list is entered where a value is expected. -/
theorem skipFrom_list {stack : List Bracket} {chars rest : List Char}
    (found : skipSpace chars = '[' :: rest) :
    skipFrom .value stack chars = skipFrom .opened (.list :: stack) rest := by
  rw [skipFrom]
  split <;> simp_all

/-- An object is entered where a value is expected. -/
theorem skipFrom_object {stack : List Bracket} {chars rest : List Char}
    (found : skipSpace chars = '\x7b' :: rest) :
    skipFrom .value stack chars = skipFrom .opened (.object :: stack) rest := by
  rw [skipFrom]
  split <;> simp_all

/-- A scalar is passed where a value is expected. -/
theorem skipFrom_scalar {stack : List Bracket} {chars behind : List Char} {char : Char}
    {rest : List Char} (found : skipSpace chars = char :: rest) (notList : char ≠ '[')
    (notObject : char ≠ '\x7b') (scalar : skipScalar (char :: rest) = .ok behind) :
    skipFrom .value stack chars = skipFrom .passed stack behind := by
  conv => lhs; rw [skipFrom]
  split
  · next same =>
      rw [found] at same
      cases same
  · next same =>
      rw [found] at same
      cases same
      exact absurd rfl notList
  · next same =>
      rw [found] at same
      cases same
      exact absurd rfl notObject
  · split
    · next refused =>
        rw [found, scalar] at refused
        cases refused
    · next passed =>
        rw [found, scalar] at passed
        cases passed
        rfl

/-- A key is passed, and a value is expected behind it. -/
theorem skipFrom_key {stack : List Bracket} {chars rest : List Char}
    (key : skipKey chars = .ok rest) :
    skipFrom .key stack chars = skipFrom .value stack rest := by
  conv => lhs; rw [skipFrom]
  split
  · next refused =>
      rw [key] at refused
      cases refused
  · next passed =>
      rw [key] at passed
      cases passed
      rfl

/-- A bracket that closes right away is passed. -/
theorem skipFrom_opened_close {bracket : Bracket} {outer : List Bracket}
    {chars rest : List Char} (found : skipSpace chars = bracket.closing :: rest) :
    skipFrom .opened (bracket :: outer) chars = skipFrom .passed outer rest := by
  rw [skipFrom]
  split <;> simp_all

/-- A bracket that does not close right away has an element. -/
theorem skipFrom_opened_element {bracket : Bracket} {outer : List Bracket} {char : Char}
    {chars rest : List Char} (found : skipSpace chars = char :: rest)
    (notClosed : char ≠ bracket.closing) :
    skipFrom .opened (bracket :: outer) chars =
      skipFrom bracket.element (bracket :: outer) (char :: rest) := by
  rw [skipFrom]
  split <;> simp_all

/-- Behind a comma another element is expected. -/
theorem skipFrom_passed_comma {bracket : Bracket} {outer : List Bracket}
    {chars rest : List Char} (found : skipSpace chars = ',' :: rest) :
    skipFrom .passed (bracket :: outer) chars =
      skipFrom bracket.element (bracket :: outer) rest := by
  rw [skipFrom]
  split <;> simp_all

/-- A bracket that closes behind an element is passed. -/
theorem skipFrom_passed_close {bracket : Bracket} {outer : List Bracket}
    {chars rest : List Char} (found : skipSpace chars = bracket.closing :: rest) :
    skipFrom .passed (bracket :: outer) chars = skipFrom .passed outer rest := by
  have notComma : bracket.closing ≠ ',' := by cases bracket <;> decide
  rw [skipFrom]
  split <;> simp_all

/-- Skipping on never lengthens what is left. -/
theorem length_of_skipFrom {phase : SkipPhase} {stack : List Bracket} {chars rest : List Char}
    (skipped : skipFrom phase stack chars = .ok rest) : rest.length ≤ chars.length := by
  fun_induction skipFrom phase stack chars with
  | case1 => cases skipped
  | case2 chars stack behind found ih =>
      have opened := length_of_skipSpace_cons found
      have := ih skipped
      omega
  | case3 chars stack behind found ih =>
      have opened := length_of_skipSpace_cons found
      have := ih skipped
      omega
  | case4 => cases skipped
  | case5 =>
      rename_i chars stack _ _ _ _ scalar ih
      have blanks := length_skipSpace_le chars
      have taken := length_of_skipScalar scalar
      have := ih skipped
      omega
  | case6 => cases skipped
  | case7 chars stack behind key ih =>
      have taken := length_of_skipKey key
      have := ih skipped
      omega
  | case8 => cases skipped; exact Nat.le_refl _
  | case9 => cases skipped; exact Nat.le_refl _
  | case10 => cases skipped
  | case11 chars bracket outer behind found ih =>
      have taken := length_of_skipSpace_cons found
      have := ih skipped
      omega
  | case12 chars bracket outer char behind found _ ih =>
      have taken := length_of_skipSpace_cons found
      have := ih skipped
      simp only [List.length_cons] at this
      omega
  | case13 => cases skipped
  | case14 chars bracket outer behind found ih =>
      have taken := length_of_skipSpace_cons found
      have := ih skipped
      omega
  | case15 chars bracket outer behind found _ ih =>
      have taken := length_of_skipSpace_cons found
      have := ih skipped
      omega
  | case16 => cases skipped

/-- Skip one value. -/
def skipValue (chars : List Char) : Except Fault (List Char) :=
  skipFrom .value [] chars

/-- A skipped value leaves less behind it. -/
theorem length_of_skipValue {chars rest : List Char}
    (skipped : skipValue chars = .ok rest) : rest.length < chars.length := by
  unfold skipValue skipFrom at skipped
  split at skipped
  · cases skipped
  · next found =>
      exact Nat.lt_of_le_of_lt (length_of_skipFrom skipped) (length_of_skipSpace_cons found)
  · next found =>
      exact Nat.lt_of_le_of_lt (length_of_skipFrom skipped) (length_of_skipSpace_cons found)
  · split at skipped
    · cases skipped
    · next scalar =>
        have blanks := length_skipSpace_le chars
        have taken := length_of_skipScalar scalar
        have kept := length_of_skipFrom skipped
        omega

end Json

end TypedMemory
