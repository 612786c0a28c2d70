import TypedMemory.Error
import TypedMemory.Settings.Basic
import TypedMemory.Stats
import TypedMemory.Text.Characters

/-!
# Starting event output

Event output starts at the level that the settings name. A level is named in
words, or by its number from one to five. Starting again does nothing, but the
level is looked at all the same.
-/

namespace TypedMemory

/-- The version of this library. -/
def version : String := "0.1.0"

namespace Level

/-- The levels under their names. -/
def names : List (String × Level) :=
  [("error", .error), ("warn", .warn), ("info", .info), ("debug", .debug), ("trace", .trace)]

/-- The levels under their numbers. -/
def ofNumber? : Nat → Option Level
  | 1 => some .error
  | 2 => some .warn
  | 3 => some .info
  | 4 => some .debug
  | 5 => some .trace
  | _ => none

/-- A number in decimal digits, behind at most one plus sign, that fits 64
bits. -/
def readNumber? (chars : List Char) : Option Nat :=
  let digits :=
    match chars with
    | '+' :: rest => rest
    | chars => chars
  if digits.isEmpty || !digits.all Char.isDigit then none
  else
    let value := digits.foldl (fun value digit => value * 10 + (digit.toNat - '0'.toNat)) 0
    if value < wordLimit then some value else none

/-- The level that a text names. -/
def parse? (text : String) : Option Level :=
  match (readNumber? text.toList).bind ofNumber? with
  | some level => some level
  | none =>
      (names.find? fun (name, _) => Text.sameIgnoringCase text name).map Prod.snd

end Level

/-- Start event output, unless it was `started` already: the events that this
causes. -/
def start (started : Bool) (settings : LoggingSettings) : Except Error (List Event) :=
  match Level.parse? settings.level with
  | none => .error (.invalidInput ("unknown log level '" ++ settings.level ++ "'"))
  | some _ =>
      .ok (if started then []
        else [{ level := .info, message := "kernelmem " ++ version ++ " initialized" }])

end TypedMemory
