/-!
# Byte strings and their UTF-8 reading

Paths, file contents and environment values are byte strings: nothing promises
that they hold text. A text has one byte form, and a byte string is either the
byte form of a text or it is not. Between the two stands the piecewise reading
used for messages. It cuts any byte string into the characters it does hold and
the ill-formed runs between them, each run as long as a character was still
possible and no longer.
-/

namespace TypedMemory

/-- A string of bytes, with no promise that it is text. -/
abbrev Bytes := List UInt8

namespace Utf8

/-- The byte form of a text. -/
def encode (text : String) : Bytes :=
  text.toByteArray.data.toList

/-- The text that a byte string is the byte form of, if it is one. -/
def decode? (bytes : Bytes) : Option String :=
  String.fromUTF8? ⟨bytes.toArray⟩

/-- Reading back the byte form of a text gives that text. -/
@[simp] theorem decode?_encode (text : String) :
    decode? (encode text) = some text := by
  have bytes : (⟨(encode text).toArray⟩ : ByteArray) = text.toByteArray := by
    simp [encode]
  rw [decode?, bytes, String.fromUTF8?, dif_pos text.isValidUTF8]
  rfl

/-- A byte string that reads as a text is the byte form of that text. -/
theorem encode_of_decode? {bytes : Bytes} {text : String}
    (read : decode? bytes = some text) : encode text = bytes := by
  unfold decode? String.fromUTF8? at read
  split at read
  · injection read with read
    subst read
    simp [encode, String.fromUTF8]
  · simp at read

/-- A piece of a byte string: one character, or one ill-formed run. -/
inductive Piece where
  | character (char : Char)
  | illFormed (run : Bytes)
deriving Repr, DecidableEq

/-- The range of an unconstrained continuation byte. -/
def continuation : UInt8 × UInt8 := (0x80, 0xBF)

/-- The ranges that the bytes after a lead byte must lie in, in order. A byte
that cannot lead a character has none. -/
def followers? (lead : UInt8) : Option (List (UInt8 × UInt8)) :=
  if lead < 0x80 then some []
  else if lead < 0xC2 then none
  else if lead < 0xE0 then some [continuation]
  else if lead = 0xE0 then some [(0xA0, 0xBF), continuation]
  else if lead = 0xED then some [(0x80, 0x9F), continuation]
  else if lead < 0xF0 then some [continuation, continuation]
  else if lead = 0xF0 then some [(0x90, 0xBF), continuation, continuation]
  else if lead < 0xF4 then some [continuation, continuation, continuation]
  else if lead = 0xF4 then some [(0x80, 0x8F), continuation, continuation]
  else none

/-- The bytes at the front that lie in the given ranges, one range a byte, up to
the first that does not. -/
def conforming : List (UInt8 × UInt8) → Bytes → Bytes
  | (low, high) :: ranges, byte :: bytes =>
      if low ≤ byte ∧ byte ≤ high then byte :: conforming ranges bytes else []
  | _, _ => []

/-- The code point whose lead byte and continuation bytes are given. A lead byte
followed by `n` bytes carries `6 - n` bits of its own, or seven when it stands
alone. -/
def codePoint (lead : UInt8) (tail : Bytes) : Nat :=
  let own := if tail.isEmpty then lead.toNat else lead.toNat % Nat.pow 2 (6 - tail.length)
  tail.foldl (fun code byte => code * 64 + byte.toNat % 64) own

/-- Cut a byte string into characters and ill-formed runs. -/
def pieces : Bytes → List Piece
  | [] => []
  | lead :: rest =>
      match followers? lead with
      | none => .illFormed [lead] :: pieces rest
      | some ranges =>
          let tail := conforming ranges rest
          let piece :=
            if tail.length = ranges.length then
              Piece.character (Char.ofNat (codePoint lead tail))
            else .illFormed (lead :: tail)
          piece :: pieces (rest.drop tail.length)
termination_by bytes => bytes.length
decreasing_by
  · simp
  · simp only [List.length_drop, List.length_cons]; omega

/-- The replacement character, shown for an ill-formed run. -/
def replacement : Char := Char.ofNat 0xFFFD

/-- The character shown for a piece. -/
def Piece.shown : Piece → Char
  | .character char => char
  | .illFormed _ => replacement

/-- A readable text for any byte string: each ill-formed run becomes one
replacement character. -/
def display (bytes : Bytes) : String :=
  String.ofList ((pieces bytes).map Piece.shown)

end Utf8

end TypedMemory
