import TypedMemory.Error
import TypedMemory.SystemError

/-!
# File systems

Settings are read from and written to some file system, of which only this is
needed: reading a whole file, and writing a whole file. A file is emptied, or made,
before anything is written to it. So a write that fails may have changed something
all the same, and what it leaves is part of its answer.
-/

namespace TypedMemory

/-- Why a file cannot be read or written. -/
inductive IoFault where
  /-- The system refused, with the number of its error. -/
  | system (number : Int)
  /-- The path holds a byte that no path may hold. -/
  | nulInPath
  /-- The file does not hold text. -/
  | notText
  /-- Some other reason, given in words. -/
  | other (text : String)
deriving Repr, DecidableEq

namespace IoFault

/-- The number for a file or directory that does not exist. -/
def missing : IoFault := .system 2

/-- The number for what nobody may do. -/
def denied : IoFault := .system 13

/-- The number for a path that goes on behind a file. -/
def notDirectory : IoFault := .system 20

/-- The number for a directory used as a file. -/
def isDirectory : IoFault := .system 21

/-- The number for a name that is too long. -/
def nameTooLong : IoFault := .system 36

/-- The fault, in words. -/
def describe : IoFault → String
  | .system number => systemErrorText number ++ " (os error " ++ toString number ++ ")"
  | .nulInPath => "file name contained an unexpected NUL byte"
  | .notText => "stream did not contain valid UTF-8"
  | .other text => text

/-- The fault as an error. -/
def error (fault : IoFault) : Error := .io fault.describe

end IoFault

/-- The operations of a file system whose states are of type `σ`. -/
structure FileSystem (σ : Type) where
  /-- Read a whole file. -/
  read : σ → Path → Except IoFault Bytes
  /-- Write a whole file. The state is the one left behind, also by a write that
  fails. -/
  write : σ → Path → Bytes → Except IoFault Unit × σ

namespace FileSystem

variable {σ : Type}

/-- Read a file that holds text. -/
def readText (files : FileSystem σ) (disk : σ) (path : Path) : Except IoFault String :=
  match files.read disk path with
  | .error fault => .error fault
  | .ok bytes =>
      match Utf8.decode? bytes with
      | some text => .ok text
      | none => .error .notText

/-- The path of the null device. -/
def nullDevice : Path := .ofText "/dev/null"

/-- A file system with the null device beside its files: what is written to the device
is gone, and it always reads as empty. -/
def withNullDevice (files : FileSystem σ) : FileSystem σ where
  read disk path := if path = nullDevice then .ok [] else files.read disk path
  write disk path bytes :=
    if path = nullDevice then (.ok (), disk) else files.write disk path bytes

end FileSystem

end TypedMemory
