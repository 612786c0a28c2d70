import TypedMemory.Text.Quoted

/-!
# Outlines of values

An outline is the structured description of a value: named fields, wrapped
values, mappings, and plain text at the leaves. It is laid out on one line, or
over several lines with four spaces to a level and a comma behind every part.
Addresses are the one kind of leaf that the two layouts write differently.
-/

namespace TypedMemory

/-- The structured description of a value. -/
inductive Outline where
  | atom (text : String)
  | address (value : Nat)
  | wrapped (name : String) (part : Outline)
  | record (name : String) (fields : List (String × Outline))
  | mapping (entries : List (String × Outline))
deriving Repr

namespace Outline

/-- An outline of a value that may be absent. -/
def optional {α : Type} (outline : α → Outline) : Option α → Outline
  | none => .atom "None"
  | some value => .wrapped "Some" (outline value)

/-- An outline of a number. -/
def number (value : Nat) : Outline := .atom (toString value)

/-- An address, without leading zeros. -/
def shortAddress (value : Nat) : String := "0x" ++ Text.hex value

/-- An address with all of its sixteen digits. -/
def fullAddress (value : Nat) : String := "0x" ++ Text.hexPadded 16 value

mutual

/-- The outline on one line. -/
def inline : Outline → String
  | .atom text => text
  | .address value => shortAddress value
  | .wrapped name part => name ++ "(" ++ part.inline ++ ")"
  | .record name [] => name
  | .record name (field :: fields) =>
      name ++ " \x7b " ++ inlineParts true (field :: fields) ++ " \x7d"
  | .mapping entries => "\x7b" ++ inlineParts true entries ++ "\x7d"

/-- Named parts on one line, divided by commas. -/
def inlineParts (first : Bool) : List (String × Outline) → String
  | [] => ""
  | (name, part) :: parts =>
      (if first then "" else ", ") ++ name ++ ": " ++ part.inline ++ inlineParts false parts

end

/-- A line break, and the indentation of a level. -/
def breakLine (level : Nat) : String :=
  "\n" ++ String.ofList (List.replicate (4 * level) ' ')

mutual

/-- The outline over several lines, standing at a level. -/
def indentedAt (level : Nat) : Outline → String
  | .atom text => text
  | .address value => fullAddress value
  | .wrapped name part =>
      name ++ "(" ++ breakLine (level + 1) ++ part.indentedAt (level + 1) ++ "," ++
        breakLine level ++ ")"
  | .record name [] => name
  | .record name (field :: fields) =>
      name ++ " \x7b" ++ indentedParts (level + 1) (field :: fields) ++ breakLine level ++ "\x7d"
  | .mapping [] => "\x7b\x7d"
  | .mapping (entry :: entries) =>
      "\x7b" ++ indentedParts (level + 1) (entry :: entries) ++ breakLine level ++ "\x7d"

/-- Named parts, each on lines of its own with a comma behind it. -/
def indentedParts (level : Nat) : List (String × Outline) → String
  | [] => ""
  | (name, part) :: parts =>
      breakLine level ++ name ++ ": " ++ part.indentedAt level ++ "," ++
        indentedParts level parts

end

/-- The outline over several lines. -/
def indented (outline : Outline) : String := outline.indentedAt 0

end Outline

end TypedMemory
