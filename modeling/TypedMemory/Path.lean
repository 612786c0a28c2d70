import TypedMemory.Text.Quoted

/-!
# Paths

A path is a byte string. Two paths may be spelled differently and still name the
same components: repeated separators, a separator at the end and a dot between
two separators do not matter, while a dot in front does.
-/

namespace TypedMemory

/-- A path, as the bytes it is spelled with. -/
structure Path where
  bytes : Bytes
deriving Repr, DecidableEq

namespace Path

/-- The path spelled by a text. -/
def ofText (text : String) : Path := ⟨Utf8.encode text⟩

/-- The text that spells a path, if one does. -/
def text? (path : Path) : Option String := Utf8.decode? path.bytes

/-- Whether a path has no bytes. -/
def isEmpty (path : Path) : Bool := path.bytes.isEmpty

/-- The path as a readable text. -/
def display (path : Path) : String := Utf8.display path.bytes

/-- The path in quotes. -/
def quote (path : Path) : String := Text.quoteBytes path.bytes

/-- The byte that separates components. -/
def separator : UInt8 := 0x2F

/-- The component that names the directory itself. -/
def here : Bytes := [0x2E]

/-- The component that names the directory above. -/
def above : Bytes := [0x2E, 0x2E]

/-- The runs of bytes between separators, empty ones included. -/
def segments : Bytes → List Bytes
  | [] => [[]]
  | byte :: bytes =>
      if byte = separator then [] :: segments bytes
      else
        match segments bytes with
        | [] => [[byte]]
        | segment :: segments => (byte :: segment) :: segments

/-- Whether a path starts at the root. -/
def isRooted (path : Path) : Bool := path.bytes.head? == some separator

/-- Whether a segment counts as a component wherever it stands. -/
def isProper (segment : Bytes) : Bool := !segment.isEmpty && segment != here

/-- The components of a path. A dot counts only in front. -/
def components (path : Path) : List Bytes :=
  match segments path.bytes with
  | [] => []
  | first :: rest =>
      (if first.isEmpty then [] else [first]) ++ rest.filter isProper

/-- Whether two paths have the same components from the same start. -/
def sameAs (left right : Path) : Bool :=
  left.isRooted == right.isRooted && left.components == right.components

end Path

end TypedMemory
