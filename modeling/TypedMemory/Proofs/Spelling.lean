import Mathlib.Tactic.IntervalCases
import Mathlib.Tactic.SplitIfs
import TypedMemory.Json.Document
import TypedMemory.Json.Skip

/-!
# Spellings of documents

A document is spelled with its strings written in one way and with any blanks
between its tokens (`Json.Spells`). The text without blanks and the text over
several lines are both spellings (`Json.spells_compactChars`,
`Json.spells_prettyChars`), so that a reader that takes every spelling takes
both.
-/

namespace TypedMemory

namespace Json

/-- Characters that may all stand between two tokens. -/
def Blank (chars : List Char) : Prop :=
  ∀ char ∈ chars, isSpace char = true

theorem blank_nil : Blank [] := by
  intro char member
  cases member

theorem blank_space : Blank [' '] := by
  intro char member
  rw [List.mem_singleton.mp member]
  rfl

/-- A line break with its indentation is blank. -/
theorem blank_breakLine (level : Nat) : Blank (Document.breakLine level) := by
  intro char member
  obtain rfl | indent := List.mem_cons.mp member
  · rfl
  · rw [List.eq_of_mem_replicate indent]
    rfl

/-- Blanks are skipped up to the first character that is none. -/
theorem skipSpace_append {blanks rest : List Char} {char : Char} (blank : Blank blanks)
    (solid : isSpace char = false) : skipSpace (blanks ++ char :: rest) = char :: rest := by
  unfold skipSpace
  rw [List.dropWhile_append_of_pos blank, List.dropWhile_cons_of_neg (by simp [solid])]

/-! ## Strings -/

/-- The code of a control character is written with four digits. -/
theorem toList_hexPadded {value : Nat} (small : value < 0x20) :
    (Text.hexPadded 4 value).toList =
      ['0', '0', Nat.digitChar (value / 16), Nat.digitChar (value % 16)] := by
  interval_cases value <;> decide

/-- A digit that is written is read back. -/
theorem hexDigit?_digitChar {digit : Nat} (small : digit < 16) :
    Text.hexDigit? (Nat.digitChar digit) = some digit := by
  interval_cases digit <;> decide

/-- A short escape is read as its character. -/
theorem readEscape_short {letter char : Char} (short : shortEscape? letter = some char)
    (rest : List Char) : readEscape (letter :: rest) = .ok (char, rest) := by
  have notUnits : letter ≠ 'u' := by
    rintro rfl
    cases short
  simp [readEscape, notUnits, short]

/-- A character is written by a letter that stands for it, by its number, or as
itself. -/
theorem writeChar_cases (char : Char) :
    (∃ letter, shortEscape? letter = some char ∧ writeChar char = ['\\', letter]) ∨
      (isControl char = true ∧
        writeChar char = '\\' :: 'u' :: (Text.hexPadded 4 char.toNat).toList) ∨
      (char ≠ '"' ∧ char ≠ '\\' ∧ isControl char = false ∧ writeChar char = [char]) := by
  unfold writeChar
  split_ifs with quote backslash newline carriageReturn tab backspace formFeed control
  · exact .inl ⟨'"', by rw [quote]; rfl, rfl⟩
  · exact .inl ⟨'\\', by rw [backslash]; rfl, rfl⟩
  · exact .inl ⟨'n', by rw [newline]; rfl, rfl⟩
  · exact .inl ⟨'r', by rw [carriageReturn]; rfl, rfl⟩
  · exact .inl ⟨'t', by rw [tab]; rfl, rfl⟩
  · exact .inl ⟨'b', by rw [backspace]; rfl, rfl⟩
  · exact .inl ⟨'f', by rw [formFeed]; rfl, rfl⟩
  · exact .inr (.inl ⟨control, rfl⟩)
  · exact .inr (.inr ⟨quote, backslash, by simpa using control, rfl⟩)

/-! ## Documents -/

mutual

/-- The characters that spell a document: its strings are written in one way, but
any blanks may stand between its tokens. -/
inductive Spells : Document → List Char → Prop
  | null : Spells .null ['n', 'u', 'l', 'l']
  | yes : Spells (.boolean true) ['t', 'r', 'u', 'e']
  | no : Spells (.boolean false) ['f', 'a', 'l', 's', 'e']
  | text (value : String) : Spells (.text value) (writeText value)
  | object {members : List (String × Document)} {chars : List Char}
      (listed : SpellsMembers true members chars) :
      Spells (.object members) ('\x7b' :: chars)

/-- The characters that spell the members of an object, a comma before all but
the first, and the end of the object. -/
inductive SpellsMembers : Bool → List (String × Document) → List Char → Prop
  | close {first : Bool} {blanks : List Char} (blank : Blank blanks) :
      SpellsMembers first [] (blanks ++ ['\x7d'])
  | member {first : Bool} {name : String} {value : Document} {members : List (String × Document)}
      {before between chars rest : List Char} (blankBefore : Blank before)
      (blankBetween : Blank between) (spelled : Spells value chars)
      (listed : SpellsMembers false members rest) :
      SpellsMembers first ((name, value) :: members)
        ((if first then [] else [',']) ++ before ++ writeText name ++
          ':' :: between ++ chars ++ rest)

end

/-- A spelling starts with a character that is no blank, and with the letter of
`null` only if it spells that. -/
theorem Spells.head {document : Document} {chars : List Char} (spelled : Spells document chars) :
    ∃ char more, chars = char :: more ∧ isSpace char = false ∧
      (document ≠ .null → char ≠ 'n') := by
  cases spelled with
  | null => exact ⟨_, _, rfl, rfl, fun present => absurd rfl present⟩
  | yes => exact ⟨_, _, rfl, rfl, fun _ => by decide⟩
  | no => exact ⟨_, _, rfl, rfl, fun _ => by decide⟩
  | text value => exact ⟨_, _, rfl, rfl, fun _ => by decide⟩
  | object listed => exact ⟨_, _, rfl, rfl, fun _ => by decide⟩

/-- Blanks before a spelling are skipped, and nothing of the spelling is. -/
theorem Spells.skipSpace {document : Document} {blanks chars : List Char}
    (spelled : Spells document chars) (blank : Blank blanks) (rest : List Char) :
    skipSpace (blanks ++ chars ++ rest) = chars ++ rest := by
  obtain ⟨char, more, rfl, solid, -⟩ := spelled.head
  rw [List.append_assoc]
  exact skipSpace_append blank solid

open Document in
mutual

/-- The text without blanks is a spelling. -/
theorem spells_compactChars : ∀ document : Document, Spells document document.compactChars
  | .null => by
      rw [compactChars]
      exact .null
  | .boolean true => by
      rw [compactChars]
      exact .yes
  | .boolean false => by
      rw [compactChars]
      exact .no
  | .text value => by
      rw [compactChars]
      exact .text value
  | .object members => by
      rw [compactChars]
      exact .object (spellsMembers_compactMembers true members)

/-- Members on one line spell an object. -/
theorem spellsMembers_compactMembers : ∀ (first : Bool) (members : List (String × Document)),
    SpellsMembers first members (compactMembers first members ++ ['\x7d'])
  | first, [] => by
      rw [compactMembers]
      exact .close blank_nil
  | first, (name, value) :: members => by
      have listed := spellsMembers_compactMembers false members
      rw [compactMembers]
      simpa using SpellsMembers.member blank_nil blank_nil (spells_compactChars value) listed

end

open Document in
mutual

/-- The text over several lines is a spelling, at whatever level it stands. -/
theorem spells_prettyChars (level : Nat) :
    ∀ document : Document, Spells document (document.prettyChars level)
  | .null => by
      rw [prettyChars]
      exact .null
  | .boolean true => by
      rw [prettyChars]
      exact .yes
  | .boolean false => by
      rw [prettyChars]
      exact .no
  | .text value => by
      rw [prettyChars]
      exact .text value
  | .object [] => by
      rw [prettyChars]
      exact .object (.close blank_nil)
  | .object (member :: members) => by
      have listed := spellsMembers_prettyMembers level true (member :: members)
      rw [prettyChars]
      simpa using Spells.object listed

/-- Members on lines of their own spell an object. -/
theorem spellsMembers_prettyMembers (level : Nat) :
    ∀ (first : Bool) (members : List (String × Document)),
      SpellsMembers first members
        (prettyMembers (level + 1) first members ++ breakLine level ++ ['\x7d'])
  | first, [] => by
      rw [prettyMembers]
      exact .close (blank_breakLine level)
  | first, (name, value) :: members => by
      have listed := spellsMembers_prettyMembers level false members
      rw [prettyMembers]
      simpa using SpellsMembers.member (blank_breakLine (level + 1)) blank_space
        (spells_prettyChars (level + 1) value) listed

end

end Json

end TypedMemory
