import TypedMemory.Error

/-!
# The platform

Blocks come from places this library cannot see into: the host's memory, and
libraries that some loader opens and whose routines are then called. A platform
is any such surroundings. Nothing is assumed about it here; what a statement
needs of a platform it says itself.
-/

namespace TypedMemory

/-- What looking a name up in a library gives. -/
inductive Lookup (Routine : Type) where
  /-- The library has no such name, for the reason given. -/
  | missing (reason : String)
  /-- The name stands for a null address. -/
  | null
  /-- The name stands for a routine. -/
  | found (routine : Routine)
deriving Repr, DecidableEq

/-- What lies outside of this library, and how it answers. An address of zero is
no memory. -/
structure Platform where
  /-- The state of everything outside. -/
  State : Type
  /-- Opened libraries. -/
  Library : Type
  /-- Routines that libraries export. -/
  Routine : Type
  /-- Open the library at a path, with the loader of the given number. -/
  openLibrary : Nat → Path → State → Except Error Library × State
  /-- Look a name up in a library. -/
  lookUp : Library → String → State → Lookup Routine
  /-- Call a routine as one that obtains a block of so many elements. -/
  callAlloc : Routine → Int64 → State → Nat × State
  /-- Call a routine as one that releases the block at an address. -/
  callDealloc : Routine → Nat → State → State
  /-- Obtain zeroed host memory of a size and an alignment. -/
  hostAlloc : (size alignment : Nat) → State → Nat × State
  /-- Give host memory back, with the size and alignment it was obtained with. -/
  hostFree : (address size alignment : Nat) → State → State

end TypedMemory
