import TypedMemory.Text.Utf8

/-!
# Environment variables

An environment gives byte strings to names. It keeps each variable as one entry,
the name and the value with an equals sign between them, and reading a variable
looks for the entry that starts with the name and an equals sign. So a name may
reach over the sign into a value that has another one. A name that is empty or
holds a NUL cannot be the name of a variable, and reads as unset.
-/

namespace TypedMemory

/-- The variables that are set, with their values. -/
structure Environment where
  bindings : List (String × Bytes) := []
deriving Repr, DecidableEq

namespace Environment

/-- Whether a variable can have this name. -/
def isName (name : String) : Bool :=
  !name.isEmpty && !name.toList.contains (Char.ofNat 0)

/-- The byte between the name and the value of a variable. -/
def equals : UInt8 := 0x3D

/-- What an entry starts with: the name of its variable and the sign behind it. -/
def lead (name : String) : Bytes := Utf8.encode name ++ [equals]

/-- What stands behind the given front, if that is the front. -/
def behind? : (front bytes : Bytes) → Option Bytes
  | [], bytes => some bytes
  | _ :: _, [] => none
  | first :: front, byte :: bytes => if first = byte then behind? front bytes else none

/-- Behind a front stands what was put there. -/
theorem behind?_append (front value : Bytes) : behind? front (front ++ value) = some value := by
  induction front with
  | nil => simp [behind?]
  | cons byte front ih => simp [behind?, ih]

/-- The value of a variable, if it is set. -/
def get? (environment : Environment) (name : String) : Option Bytes :=
  if isName name then
    environment.bindings.findSome? fun (other, value) =>
      behind? (lead name) (lead other ++ value)
  else none

/-- The environment with a variable unset. -/
def unset (environment : Environment) (name : String) : Environment :=
  ⟨environment.bindings.filter fun entry => entry.1 != name⟩

/-- The environment with a variable set. -/
def set (environment : Environment) (name : String) (value : Bytes) : Environment :=
  ⟨(name, value) :: (environment.unset name).bindings⟩

/-- A variable that was set has the value it was set to. -/
theorem get?_set (environment : Environment) {name : String} (value : Bytes)
    (valid : isName name = true) : (environment.set name value).get? name = some value := by
  simp [get?, set, valid, behind?_append]

end Environment

end TypedMemory
