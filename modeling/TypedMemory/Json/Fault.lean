import TypedMemory.Decimal.Notation
import TypedMemory.Text.Quoted

/-!
# Faults in a document

A document is read as a list of characters. A reader that refuses one says why,
and how many bytes of the document lie behind the fault; with the whole document
at hand that number gives the line and column shown to the user. A fault is
placed either before what is still to be read or just behind the next byte of
it.
-/

namespace TypedMemory

namespace Json

/-- What stands in a document where something else was expected. -/
inductive Found where
  | null
  | boolean (value : Bool)
  | integer (value : Int)
  | floating (negative : Bool) (magnitude : Decimal.Binary64)
  | text (value : String)
  | sequence
  | mapping
deriving Repr, DecidableEq

/-- What is found, in words. -/
def Found.describe : Found → String
  | .null => "null"
  | .boolean true => "boolean `true`"
  | .boolean false => "boolean `false`"
  | .integer value => "integer `" ++ toString value ++ "`"
  | .floating negative magnitude =>
      "floating point `" ++ Decimal.render negative magnitude ++ "`"
  | .text value => "string " ++ Text.quote value
  | .sequence => "sequence"
  | .mapping => "map"

/-- Why a document is refused. -/
inductive Cause where
  | endInValue
  | endInList
  | endInObject
  | endInString
  | expectedColon
  | expectedListSeparator
  | expectedObjectSeparator
  | expectedWord
  | expectedValue
  | invalidEscape
  | invalidNumber
  | numberOutOfRange
  | loneSurrogate
  | unfinishedSurrogatePair
  | controlCharacter
  | keyNotText
  | trailingComma
  | trailingCharacters
  | invalidType (found : Found) (expected : String)
  | duplicateField (name : String)
  | unknownVariant (found : String) (variants : List String)
deriving Repr, DecidableEq

/-- A choice among names, in words: two are joined by `or`, more are listed. -/
def describeChoice (names : List String) : String :=
  match names.map fun name => "`" ++ name ++ "`" with
  | [] => "there are no variants"
  | [one] => "expected " ++ one
  | [one, two] => "expected " ++ one ++ " or " ++ two
  | many => "expected one of " ++ String.intercalate ", " many

/-- The cause, in words. -/
def Cause.describe : Cause → String
  | .endInValue => "EOF while parsing a value"
  | .endInList => "EOF while parsing a list"
  | .endInObject => "EOF while parsing an object"
  | .endInString => "EOF while parsing a string"
  | .expectedColon => "expected `:`"
  | .expectedListSeparator => "expected `,` or `]`"
  | .expectedObjectSeparator => "expected `,` or `\x7d`"
  | .expectedWord => "expected ident"
  | .expectedValue => "expected value"
  | .invalidEscape => "invalid escape"
  | .invalidNumber => "invalid number"
  | .numberOutOfRange => "number out of range"
  | .loneSurrogate => "lone leading surrogate in hex escape"
  | .unfinishedSurrogatePair => "unexpected end of hex escape"
  | .controlCharacter => "control character (\\u0000-\\u001F) found while parsing a string"
  | .keyNotText => "key must be a string"
  | .trailingComma => "trailing comma"
  | .trailingCharacters => "trailing characters"
  | .invalidType found expected =>
      "invalid type: " ++ found.describe ++ ", expected " ++ expected
  | .duplicateField name => "duplicate field `" ++ name ++ "`"
  | .unknownVariant found variants =>
      "unknown variant `" ++ found ++ "`, " ++ describeChoice variants

/-- The number of bytes that characters take in a document. -/
def byteCount (chars : List Char) : Nat :=
  chars.foldr (fun char count => char.utf8Size + count) 0

/-- A refusal: its cause, and how many bytes of the document lie behind it. -/
structure Fault where
  cause : Cause
  behind : Nat
deriving Repr, DecidableEq

namespace Fault

/-- A fault placed before what is still to be read. -/
def before (cause : Cause) (rest : List Char) : Fault :=
  ⟨cause, byteCount rest⟩

/-- A fault placed behind the next `count` bytes of what is still to be read, or
at the end of the document if there are not as many. -/
def past (count : Nat) (cause : Cause) (rest : List Char) : Fault :=
  ⟨cause, byteCount rest - count⟩

/-- A fault placed behind the next byte. -/
abbrev pastNext (cause : Cause) (rest : List Char) : Fault :=
  past 1 cause rest

/-- The line, counted from one, that the end of some bytes lies on. -/
def line (bytes : Bytes) : Nat :=
  1 + bytes.count 10

/-- How many bytes stand on the line that the end of some bytes lies on. -/
def column (bytes : Bytes) : Nat :=
  (bytes.reverse.takeWhile (· != 10)).length

/-- The fault with its place in the document, in words. -/
def describe (document : String) (fault : Fault) : String :=
  let bytes := Utf8.encode document
  let read := bytes.take (bytes.length - fault.behind)
  fault.cause.describe ++ " at line " ++ toString (line read) ++ " column " ++
    toString (column read)

end Fault

end Json

end TypedMemory
