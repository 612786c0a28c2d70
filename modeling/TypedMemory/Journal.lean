import TypedMemory.ElementType
import TypedMemory.Error
import TypedMemory.Platform
import TypedMemory.Registry

/-!
# The journal

Every dealing with the platform is entered in a journal, in the order in which it
happens: the events that are reported, the libraries that were opened or not, the
entry points that were called, and the blocks that were granted by a provider and
given back to one.
-/

namespace TypedMemory

/-- A library that was opened for a backend. -/
structure LoadedLibrary (P : Platform) where
  backend : Backend
  path : Path
  library : P.Library

/-- The outline of an opened library. -/
def LoadedLibrary.outline {P : Platform} (loaded : LoadedLibrary P) : Outline :=
  .record "LibraryHandle" [("backend", loaded.backend.outline), ("path", .atom loaded.path.quote)]

/-- A call of an entry point. -/
inductive Call where
  /-- A block of so many elements was asked for, and this address came back. -/
  | alloc (length : Int64) (address : Nat)
  /-- The block at this address was released. -/
  | dealloc (address : Nat)
deriving Repr, DecidableEq

/-- An entry in the journal. -/
inductive Entry (P : Platform) where
  /-- An event was reported. -/
  | reported (event : Event)
  /-- A loader was asked to open the library of a backend, and did so or did not. -/
  | opened (cache : Nat) (backend : Backend) (path : Path) (succeeded : Bool)
  /-- An entry point was called. -/
  | called (loaded : LoadedLibrary P) (symbol : String) (call : Call)
  /-- A provider granted the memory of a block. -/
  | granted (block provider : Nat) (type : ElementType) (address : Nat) (length : UInt64)
  /-- A provider was asked to take the memory of a block back. -/
  | returned (block provider : Nat) (type : ElementType) (address : Nat) (length : UInt64)

/-- The state of the platform, and the journal of all dealings with it. -/
structure Outside (P : Platform) where
  state : P.State
  journal : List (Entry P) := []

namespace Outside

variable {P : Platform}

/-- Enter something in the journal. -/
def enter (outside : Outside P) (entry : Entry P) : Outside P :=
  { outside with journal := outside.journal ++ [entry] }

/-- Report an event. -/
def report (outside : Outside P) (level : Level) (message : String)
    (fields : List (String × FieldValue)) : Outside P :=
  outside.enter (.reported { level, message, fields })

/-- The events in the journal. -/
def events (outside : Outside P) : List Event :=
  outside.journal.filterMap fun
    | .reported event => some event
    | _ => none

end Outside

end TypedMemory
