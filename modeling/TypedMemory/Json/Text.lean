import TypedMemory.Json.Fault

/-!
# Strings in a document

A string is read from behind its opening quote to behind its closing quote. The
reading turns escapes into the characters they stand for, and wants surrogates in
pairs. The writing escapes what may not stand in a string as itself. Skipping a
string checks its shape only: surrogates stay unchecked.
-/

namespace TypedMemory

namespace Json

/-- Whether a character may not stand in a string unescaped. -/
def isControl (char : Char) : Bool :=
  char.toNat < 0x20

/-- The character that a one-letter escape stands for. -/
def shortEscape? : Char → Option Char
  | '"' => some '"'
  | '\\' => some '\\'
  | '/' => some '/'
  | 'b' => some (Char.ofNat 8)
  | 'f' => some (Char.ofNat 12)
  | 'n' => some '\n'
  | 'r' => some '\r'
  | 't' => some '\t'
  | _ => none

/-- Four hexadecimal digits at the front. -/
def hexQuad? : List Char → Option (Nat × List Char)
  | a :: b :: c :: d :: rest => do
      let a ← Text.hexDigit? a
      let b ← Text.hexDigit? b
      let c ← Text.hexDigit? c
      let d ← Text.hexDigit? d
      return (((a * 16 + b) * 16 + c) * 16 + d, rest)
  | _ => none

/-- Read the four hexadecimal digits of an escape. Four bytes are taken whatever
they are; a document that has fewer left ends inside the string. -/
def readHexQuad (chars : List Char) : Except Fault (Nat × List Char) :=
  match hexQuad? chars with
  | some result => .ok result
  | none =>
      if byteCount chars < 4 then .error (.past 4 .endInString chars)
      else .error (.past 4 .invalidEscape chars)

/-- Whether a code unit is the first of a surrogate pair. -/
def isLeading (unit : Nat) : Bool :=
  0xD800 ≤ unit && unit ≤ 0xDBFF

/-- Whether a code unit is the second of a surrogate pair. -/
def isTrailing (unit : Nat) : Bool :=
  0xDC00 ≤ unit && unit ≤ 0xDFFF

/-- The character of a surrogate pair. -/
def pairedChar (leading trailing : Nat) : Char :=
  Char.ofNat ((leading - 0xD800) * 0x400 + (trailing - 0xDC00) + 0x10000)

/-- Take one given character; anything else breaks a surrogate pair off. -/
def takePairMark (mark : Char) : List Char → Except Fault (List Char)
  | [] => .error (.before .endInString [])
  | char :: rest =>
      if char = mark then .ok rest
      else .error (.pastNext .unfinishedSurrogatePair (char :: rest))

/-- Read the character of an escape by code units, from behind its `u`. -/
def readCodeUnits (chars : List Char) : Except Fault (Char × List Char) := do
  let (first, rest) ← readHexQuad chars
  if isTrailing first then .error (.before .loneSurrogate rest)
  else if !isLeading first then return (Char.ofNat first, rest)
  else
    let rest ← takePairMark '\\' rest
    let rest ← takePairMark 'u' rest
    let (second, rest) ← readHexQuad rest
    if isTrailing second then return (pairedChar first second, rest)
    else .error (.before .loneSurrogate rest)

/-- Read an escape from behind its backslash. -/
def readEscape : List Char → Except Fault (Char × List Char)
  | [] => .error (.before .endInString [])
  | letter :: rest =>
      if letter = 'u' then readCodeUnits rest
      else
        match shortEscape? letter with
        | some char => .ok (char, rest)
        | none => .error (.pastNext .invalidEscape (letter :: rest))

/-- Skip an escape from behind its backslash. -/
def skipEscape : List Char → Except Fault (List Char)
  | [] => .error (.before .endInString [])
  | letter :: rest =>
      if letter = 'u' then (readHexQuad rest).map Prod.snd
      else if (shortEscape? letter).isSome then .ok rest
      else .error (.pastNext .invalidEscape (letter :: rest))

/-- Four hexadecimal digits leave less behind them. -/
theorem length_of_hexQuad? {chars rest : List Char} {unit : Nat}
    (quad : hexQuad? chars = some (unit, rest)) : rest.length < chars.length := by
  unfold hexQuad? at quad
  split at quad
  · simp only [Option.bind_eq_bind, Option.bind_eq_some_iff] at quad
    obtain ⟨_, _, _, _, _, _, _, _, result⟩ := quad
    cases result
    simp only [List.length_cons]
    omega
  · cases quad

/-- Reading four hexadecimal digits leaves less behind them. -/
theorem length_of_readHexQuad {chars rest : List Char} {unit : Nat}
    (read : readHexQuad chars = .ok (unit, rest)) : rest.length < chars.length := by
  unfold readHexQuad at read
  split at read
  · next quad =>
      cases read
      exact length_of_hexQuad? quad
  · split at read <;> cases read

/-- Taking a mark leaves less behind it. -/
theorem length_of_takePairMark {mark : Char} {chars rest : List Char}
    (taken : takePairMark mark chars = .ok rest) : rest.length < chars.length := by
  unfold takePairMark at taken
  split at taken
  · cases taken
  · split at taken
    · cases taken
      exact Nat.lt_succ_self _
    · cases taken

/-- Code units leave less behind them. -/
theorem length_of_readCodeUnits {chars rest : List Char} {char : Char}
    (read : readCodeUnits chars = .ok (char, rest)) : rest.length < chars.length := by
  unfold readCodeUnits at read
  cases first : readHexQuad chars with
  | error fault => simp [first, bind, Except.bind] at read
  | ok result =>
      have shorter := length_of_readHexQuad first
      simp only [first, bind, Except.bind] at read
      split at read
      · cases read
      · split at read
        · cases read
          exact shorter
        · cases backslash : takePairMark '\\' result.2 with
          | error fault => simp [backslash] at read
          | ok afterBackslash =>
              have second := length_of_takePairMark backslash
              simp only [backslash] at read
              cases letter : takePairMark 'u' afterBackslash with
              | error fault => simp [letter] at read
              | ok afterLetter =>
                  have third := length_of_takePairMark letter
                  simp only [letter] at read
                  cases trailing : readHexQuad afterLetter with
                  | error fault => simp [trailing] at read
                  | ok pair =>
                      have fourth := length_of_readHexQuad trailing
                      simp only [trailing] at read
                      split at read
                      · simp only [pure, Except.pure, Except.ok.injEq, Prod.mk.injEq] at read
                        rw [← read.2]
                        omega
                      · cases read

/-- An escape leaves less behind it. -/
theorem length_of_readEscape {chars rest : List Char} {char : Char}
    (read : readEscape chars = .ok (char, rest)) : rest.length < chars.length := by
  unfold readEscape at read
  split at read
  · cases read
  · split at read
    · exact Nat.lt_succ_of_lt (length_of_readCodeUnits read)
    · split at read
      · cases read
        exact Nat.lt_succ_self _
      · cases read

/-- A skipped escape leaves less behind it. -/
theorem length_of_skipEscape {chars rest : List Char}
    (skipped : skipEscape chars = .ok rest) : rest.length < chars.length := by
  unfold skipEscape at skipped
  split at skipped
  · cases skipped
  · next letter behind =>
      split at skipped
      · cases quad : readHexQuad behind with
        | error fault => simp [quad, Except.map] at skipped
        | ok result =>
            have shorter := length_of_readHexQuad quad
            simp only [quad, Except.map, Except.ok.injEq] at skipped
            subst skipped
            exact Nat.lt_succ_of_lt shorter
      · split at skipped
        · cases skipped
          exact Nat.lt_succ_self _
        · cases skipped

/-- Read a string from behind its opening quote: its characters, and what follows
its closing quote. -/
def readText (chars : List Char) : Except Fault (List Char × List Char) :=
  match chars with
  | [] => .error (.before .endInString [])
  | char :: rest =>
      if char = '"' then .ok ([], rest)
      else if char = '\\' then
        match _ : readEscape rest with
        | .error fault => .error fault
        | .ok (meant, behind) =>
            (readText behind).map fun (text, remaining) => (meant :: text, remaining)
      else if isControl char then .error (.pastNext .controlCharacter (char :: rest))
      else (readText rest).map fun (text, remaining) => (char :: text, remaining)
termination_by chars.length
decreasing_by
  · exact Nat.lt_succ_of_lt (length_of_readEscape ‹_›)
  · exact Nat.lt_succ_self _

/-- Skip a string from behind its opening quote. -/
def skipText (chars : List Char) : Except Fault (List Char) :=
  match chars with
  | [] => .error (.before .endInString [])
  | char :: rest =>
      if char = '"' then .ok rest
      else if char = '\\' then
        match _ : skipEscape rest with
        | .error fault => .error fault
        | .ok behind => skipText behind
      else if isControl char then .error (.before .controlCharacter (char :: rest))
      else skipText rest
termination_by chars.length
decreasing_by
  · exact Nat.lt_succ_of_lt (length_of_skipEscape ‹_›)
  · exact Nat.lt_succ_self _

/-- A quote ends a string. -/
@[simp] theorem readText_quote (rest : List Char) : readText ('"' :: rest) = .ok ([], rest) := by
  rw [readText]
  simp

/-- An escape in a string is read as the character it stands for. -/
theorem readText_escape {rest behind : List Char} {meant : Char}
    (escape : readEscape rest = .ok (meant, behind)) :
    readText ('\\' :: rest) =
      (readText behind).map fun (text, remaining) => (meant :: text, remaining) := by
  rw [readText]
  simp only [Char.reduceEq, ↓reduceIte]
  split
  · next found =>
      rw [escape] at found
      cases found
  · next found =>
      rw [escape] at found
      cases found
      rfl

/-- An escape that cannot be read breaks the string off. -/
theorem readText_brokenEscape {rest : List Char} {fault : Fault}
    (broken : readEscape rest = .error fault) : readText ('\\' :: rest) = .error fault := by
  rw [readText]
  simp only [Char.reduceEq, ↓reduceIte]
  split
  · next found =>
      rw [broken] at found
      cases found
      rfl
  · next found =>
      rw [broken] at found
      cases found

/-- Any other character that may stand in a string stands for itself. -/
theorem readText_plain {char : Char} {rest : List Char} (notQuote : char ≠ '"')
    (notBackslash : char ≠ '\\') (notControl : isControl char = false) :
    readText (char :: rest) =
      (readText rest).map fun (text, remaining) => (char :: text, remaining) := by
  rw [readText]
  simp [notQuote, notBackslash, notControl]

/-- A quote ends a string that is skipped. -/
@[simp] theorem skipText_quote (rest : List Char) : skipText ('"' :: rest) = .ok rest := by
  rw [skipText]
  simp

/-- An escape in a string that is skipped is skipped. -/
theorem skipText_escape {rest behind : List Char} (escape : skipEscape rest = .ok behind) :
    skipText ('\\' :: rest) = skipText behind := by
  rw [skipText]
  simp only [Char.reduceEq, ↓reduceIte]
  split
  · next found =>
      rw [escape] at found
      cases found
  · next found =>
      rw [escape] at found
      cases found
      rfl

/-- Any other character that may stand in a string is skipped. -/
theorem skipText_plain {char : Char} {rest : List Char} (notQuote : char ≠ '"')
    (notBackslash : char ≠ '\\') (notControl : isControl char = false) :
    skipText (char :: rest) = skipText rest := by
  rw [skipText]
  simp [notQuote, notBackslash, notControl]

/-- A string leaves less behind it. -/
theorem length_of_readText {chars text rest : List Char}
    (read : readText chars = .ok (text, rest)) : rest.length < chars.length := by
  fun_induction readText chars generalizing text with
  | case1 => cases read
  | case2 behind =>
      cases read
      exact Nat.lt_succ_self _
  | case3 => cases read
  | case4 behind meant remaining escape _ ih =>
      have shorter := length_of_readEscape escape
      cases inner : readText remaining with
      | error fault => simp [inner, Except.map] at read
      | ok result =>
          simp only [inner, Except.map, Except.ok.injEq, Prod.mk.injEq] at read
          have := ih (by rw [inner, ← read.2])
          simp only [List.length_cons]
          omega
  | case5 => cases read
  | case6 char behind _ _ _ ih =>
      cases inner : readText behind with
      | error fault => simp [inner, Except.map] at read
      | ok result =>
          simp only [inner, Except.map, Except.ok.injEq, Prod.mk.injEq] at read
          have := ih (by rw [inner, ← read.2])
          simp only [List.length_cons]
          omega

/-- A skipped string leaves less behind it. -/
theorem length_of_skipText {chars rest : List Char}
    (skipped : skipText chars = .ok rest) : rest.length < chars.length := by
  fun_induction skipText chars with
  | case1 => cases skipped
  | case2 behind =>
      cases skipped
      exact Nat.lt_succ_self _
  | case3 => cases skipped
  | case4 behind remaining escape _ ih =>
      have shorter := length_of_skipEscape escape
      have := ih skipped
      simp only [List.length_cons]
      omega
  | case5 => cases skipped
  | case6 char behind _ _ _ ih =>
      have := ih skipped
      simp only [List.length_cons]
      omega

/-- How one character is written in a string: the quote, the backslash and the
control characters are escaped, the common ones by a letter. -/
def writeChar (char : Char) : List Char :=
  if char = '"' then ['\\', '"']
  else if char = '\\' then ['\\', '\\']
  else if char = '\n' then ['\\', 'n']
  else if char = '\r' then ['\\', 'r']
  else if char = '\t' then ['\\', 't']
  else if char = Char.ofNat 8 then ['\\', 'b']
  else if char = Char.ofNat 12 then ['\\', 'f']
  else if isControl char then '\\' :: 'u' :: (Text.hexPadded 4 char.toNat).toList
  else [char]

/-- A string as it is written, quotes included. -/
def writeText (text : String) : List Char :=
  '"' :: text.toList.flatMap writeChar ++ ['"']

end Json

end TypedMemory
