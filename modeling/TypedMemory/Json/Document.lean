import TypedMemory.Json.Text

/-!
# Writing documents

A document to be written is a tree of values. It is written either without any
blanks, or over several lines with two spaces to a level.
-/

namespace TypedMemory

namespace Json

/-- A value to be written. -/
inductive Document where
  | null
  | boolean (value : Bool)
  | text (value : String)
  | object (members : List (String × Document))
deriving Repr

namespace Document

/-- The line break before something at a level. -/
def breakLine (level : Nat) : List Char :=
  '\n' :: List.replicate (2 * level) ' '

mutual

/-- The document without blanks. -/
def compactChars : Document → List Char
  | .null => ['n', 'u', 'l', 'l']
  | .boolean true => ['t', 'r', 'u', 'e']
  | .boolean false => ['f', 'a', 'l', 's', 'e']
  | .text value => writeText value
  | .object members => '\x7b' :: compactMembers true members ++ ['\x7d']

/-- Members without blanks, a comma before all but the first. -/
def compactMembers (first : Bool) : List (String × Document) → List Char
  | [] => []
  | (name, value) :: members =>
      (if first then [] else [',']) ++ writeText name ++ ':' :: compactChars value ++
        compactMembers false members

end

mutual

/-- The document over several lines, standing at a level. -/
def prettyChars (level : Nat) : Document → List Char
  | .null => ['n', 'u', 'l', 'l']
  | .boolean true => ['t', 'r', 'u', 'e']
  | .boolean false => ['f', 'a', 'l', 's', 'e']
  | .text value => writeText value
  | .object [] => ['\x7b', '\x7d']
  | .object (member :: members) =>
      '\x7b' :: prettyMembers (level + 1) true (member :: members) ++ breakLine level ++ ['\x7d']

/-- Members on lines of their own, a comma behind all but the last. -/
def prettyMembers (level : Nat) (first : Bool) : List (String × Document) → List Char
  | [] => []
  | (name, value) :: members =>
      (if first then [] else [',']) ++ breakLine level ++ writeText name ++
        ':' :: ' ' :: prettyChars level value ++ prettyMembers level false members

end

/-- The text of a document without blanks. -/
def compact (document : Document) : String :=
  String.ofList document.compactChars

/-- The text of a document over several lines. -/
def pretty (document : Document) : String :=
  String.ofList (document.prettyChars 0)

end Document

end Json

end TypedMemory
