import TypedMemory.Text.Characters
import TypedMemory.Text.Utf8

/-!
# Numerals and quoted text

How numbers, texts and byte strings appear in descriptions and messages. Numerals
are hexadecimal, in lower or upper case, optionally padded with zeros to a width.
Inside quotes, the quote, the backslash and the common control characters have
short escapes; any other character that does not print is written by its code
point; a byte that belongs to no character is written as two hexadecimal digits.
-/

namespace TypedMemory

namespace Text

/-! ## Hexadecimal numerals -/

/-- The numeral of a number in base sixteen, without leading zeros. -/
def hex (value : Nat) : String :=
  String.ofList (Nat.toDigits 16 value)

/-- The numeral of a number in base sixteen, with zeros in front up to `width`. -/
def hexPadded (width value : Nat) : String :=
  let digits := Nat.toDigits 16 value
  String.ofList (List.replicate (width - digits.length) '0' ++ digits)

/-- A byte as two upper-case hexadecimal digits. -/
def hexByte (byte : UInt8) : String :=
  (hexPadded 2 byte.toNat).map Char.toUpper

/-- The value of a hexadecimal digit, in either case. -/
def hexDigit? (char : Char) : Option Nat :=
  if '0' ≤ char ∧ char ≤ '9' then some (char.toNat - '0'.toNat)
  else if 'a' ≤ char ∧ char ≤ 'f' then some (char.toNat - 'a'.toNat + 10)
  else if 'A' ≤ char ∧ char ≤ 'F' then some (char.toNat - 'A'.toNat + 10)
  else none

/-! ## Quoted text -/

/-- How one character is written inside quotes. -/
def escapeChar (char : Char) : String :=
  match char with
  | '"' => "\\\""
  | '\\' => "\\\\"
  | '\t' => "\\t"
  | '\n' => "\\n"
  | '\r' => "\\r"
  | char =>
      if char.toNat = 0 then "\\0"
      else if isPrintable char then char.toString
      else "\\u\x7b" ++ hex char.toNat ++ "\x7d"

/-- How one piece of a byte string is written inside quotes. -/
def escapePiece : Utf8.Piece → String
  | .character char => escapeChar char
  | .illFormed run => String.join (run.map fun byte => "\\x" ++ hexByte byte)

/-- A text in quotes. -/
def quote (text : String) : String :=
  "\"" ++ String.join (text.toList.map escapeChar) ++ "\""

/-- A byte string in quotes. -/
def quoteBytes (bytes : Bytes) : String :=
  "\"" ++ String.join ((Utf8.pieces bytes).map escapePiece) ++ "\""

end Text

end TypedMemory
