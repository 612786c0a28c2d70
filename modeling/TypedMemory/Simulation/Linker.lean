import TypedMemory.ElementType
import TypedMemory.Platform
import TypedMemory.Simulation.FileTree

/-!
# A simulated dynamic linker

A working directory with one kernels library and one file that is no library. A
path without a separator is looked for elsewhere, where there is nothing. The
library's routines keep no state: each has an address of its own that it gives
for every length it accepts, and releasing does nothing.
-/

namespace TypedMemory

namespace Simulation

/-- A routine of the kernels library. -/
inductive LinkedRoutine where
  /-- Gives the one address for a type. -/
  | fixed (type : ElementType)
  /-- Never has memory. -/
  | null
  /-- Releases nothing. -/
  | release
deriving Repr, DecidableEq

namespace Linker

/-- The kernels library. -/
def library : Path := .ofText "./libkernels.so"

/-- What a library starts with. -/
def magic : Bytes := [0x7F, 0x45, 0x4C, 0x46]

/-- The working directory, where one file is a library and another is not. -/
def directory : FileTree :=
  ⟨[([Utf8.encode "libkernels.so"], .file (magic ++ [0xFF])),
    ([Utf8.encode "bad.so"], .file (Utf8.encode "not a library\n"))]⟩

/-- What is said of bytes that hold a NUL, and of bytes that hold one before the
NUL at their end. -/
def nulText (terminated : Bool) : String :=
  "could not create a C string from bytes" ++ if terminated then " with trailing null" else ""

/-- Bytes as they are handed to the linker: one NUL at the end is dropped, and no
other may be there. -/
def handOver (bytes : Bytes) : Except String Bytes :=
  let terminated := bytes.getLast? == some 0
  let bytes := if terminated then bytes.dropLast else bytes
  if bytes.contains 0 then .error (nulText terminated) else .ok bytes

/-- Why a file cannot be opened as a library, if it cannot. -/
def refusal? (bytes : Bytes) : Option String :=
  if !bytes.contains Path.separator then
    some ("cannot open shared object file: " ++ systemErrorText 2)
  else
    match directory.read ⟨bytes⟩ with
    | .ok content => if magic.isPrefixOf content then none else some "file too short"
    | .error (.system 21) => some ("cannot read file data: " ++ systemErrorText 21)
    | .error (.system number) =>
        some ("cannot open shared object file: " ++ systemErrorText number)
    | .error fault => some fault.describe

/-- Open a library. No bytes at all stand for what is running, which is open. -/
def openAt (path : Path) : Except Error Unit :=
  match handOver path.bytes with
  | .error reason => .error (.load path reason)
  | .ok [] => .ok ()
  | .ok bytes =>
      match refusal? bytes with
      | none => .ok ()
      | some reason => .error (.load path (Utf8.display bytes ++ ": " ++ reason))

/-- The routines that the library exports under a stem, each with its type and
operation. -/
def exportsUnder (stem : String) (routine : ElementType → Operation → LinkedRoutine)
    (entries : List (ElementType × Operation)) : List (String × LinkedRoutine) :=
  entries.map fun (type, operation) => (symbolName stem type operation, routine type operation)

/-- The routine for a type and an operation. -/
def usual (type : ElementType) : Operation → LinkedRoutine
  | .alloc => .fixed type
  | .dealloc => .release

/-- The routine for an operation that never has memory. -/
def barren (_ : ElementType) : Operation → LinkedRoutine
  | .alloc => .null
  | .dealloc => .release

/-- All that the library exports. -/
def symbols : List (String × LinkedRoutine) :=
  exportsUnder "awkward_cuda_ptr" usual
    (ElementType.all.flatMap fun type => [(type, .alloc), (type, .dealloc)]) ++
  exportsUnder "partial_" usual
    [(.int8, .alloc), (.int8, .dealloc), (.float32, .alloc), (.float64, .dealloc)] ++
  exportsUnder "null_" barren
    [(.int32, .alloc), (.int32, .dealloc), (.bool, .alloc), (.bool, .dealloc)]

/-- Look a name up in the library. -/
def lookUp (name : String) : Lookup LinkedRoutine :=
  match handOver (Utf8.encode name) with
  | .error reason => .missing reason
  | .ok bytes =>
      match symbols.lookup (Utf8.display bytes) with
      | some routine => .found routine
      | none =>
          .missing (library.display ++ ": undefined symbol: " ++ Utf8.display bytes)

/-- The greatest length that is accepted, two to the power of 40. -/
def maxLength : Int := 1099511627776

/-- The address that a routine gives for an argument, which it takes for a length,
or zero. -/
def address (routine : LinkedRoutine) (argument : UInt64) : Nat :=
  match routine with
  | .fixed type =>
      let length := argument.toInt64.toInt
      if 0 < length ∧ length ≤ maxLength then 0x100000 * (ElementType.all.idxOf type + 1) else 0
  | .null => 0
  | .release => 0

end Linker

end Simulation

end TypedMemory
