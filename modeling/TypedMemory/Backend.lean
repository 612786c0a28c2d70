import TypedMemory.Error
import TypedMemory.Text.Characters

/-!
# Backends

A block lives in one of two memories: that of the host, or that of an
accelerator, which only a kernels library can reach.
-/

namespace TypedMemory

/-- The memory that a block lives in. -/
inductive Backend where
  | host
  | accelerator
deriving Repr, DecidableEq

namespace Backend

/-- Both backends. -/
def all : List Backend := [host, accelerator]

/-- Whether this is the host. -/
def isHost : Backend → Bool
  | host => true
  | accelerator => false

/-- Whether the elements of a block can be read from the host. -/
def isHostAccessible (backend : Backend) : Bool := backend.isHost

/-- The name of a backend. -/
def name : Backend → String
  | host => "host"
  | accelerator => "accelerator"

/-- The name of a backend in outlines. -/
def label : Backend → String
  | host => "Host"
  | accelerator => "Accelerator"

/-- The backend that an identifier names. -/
def ofIdentifier? (identifier : String) : Option Backend :=
  if identifier ∈ ["host", "cpu"] then some host
  else if identifier ∈ ["accelerator", "cuda", "gpu"] then some accelerator
  else none

/-- Read a backend from a text, ignoring blanks around it and the case of its
letters. -/
def parse (text : String) : Except Error Backend :=
  match ofIdentifier? (Text.identifier text) with
  | some backend => .ok backend
  | none => .error (Misconfiguration.unknownBackend text).error

/-- The backends under the names that documents use. -/
def variants : List (String × Backend) :=
  all.map fun backend => (backend.name, backend)

/-- The outline of a backend. -/
def outline (backend : Backend) : Outline := .atom backend.label

end Backend

end TypedMemory
