import TypedMemory.Error
import TypedMemory.Text.Characters

/-!
# Element types

The eight kinds of element that a block can hold, with their names and their
sizes. A kernels library exports two routines for every element type, one that
obtains a block and one that releases it; their names are the library's symbol
prefix, the code of the element type and the operation.
-/

namespace TypedMemory

/-- A kind of element. -/
inductive ElementType where
  | int8
  | uint8
  | int32
  | uint32
  | int64
  | float32
  | float64
  | bool
deriving Repr, DecidableEq

namespace ElementType

/-- All kinds of element. -/
def all : List ElementType :=
  [int8, uint8, int32, uint32, int64, float32, float64, bool]

/-- The size of an element in bytes. -/
def size : ElementType → Nat
  | int8 | uint8 | bool => 1
  | int32 | uint32 | float32 => 4
  | int64 | float64 => 8

/-- The alignment of an element, which for every kind is its size. -/
def alignment (type : ElementType) : Nat := type.size

/-- The code of a kind in the names of entry points. -/
def code : ElementType → String
  | int8 => "i8"
  | uint8 => "iU8"
  | int32 => "i32"
  | uint32 => "iU32"
  | int64 => "i64"
  | float32 => "f"
  | float64 => "d"
  | bool => "b"

/-- The name of a kind. -/
def name : ElementType → String
  | int8 => "int8"
  | uint8 => "uint8"
  | int32 => "int32"
  | uint32 => "uint32"
  | int64 => "int64"
  | float32 => "float32"
  | float64 => "float64"
  | bool => "bool"

/-- The name of a kind in outlines. -/
def label : ElementType → String
  | int8 => "Int8"
  | uint8 => "UInt8"
  | int32 => "Int32"
  | uint32 => "UInt32"
  | int64 => "Int64"
  | float32 => "Float32"
  | float64 => "Float64"
  | bool => "Bool"

/-- Whether elements are floating-point numbers. -/
def isFloat : ElementType → Bool
  | float32 | float64 => true
  | _ => false

/-- Whether elements are integers. -/
def isInt : ElementType → Bool
  | int8 | uint8 | int32 | uint32 | int64 => true
  | _ => false

/-- The kind that an identifier names. -/
def ofIdentifier? (identifier : String) : Option ElementType :=
  all.find? fun type => type.name == identifier

/-- Read a kind from a text, ignoring blanks around it and the case of its
letters. -/
def parse (text : String) : Except Error ElementType :=
  match ofIdentifier? (Text.identifier text) with
  | some type => .ok type
  | none => .error (Misconfiguration.unknownElementType text).error

/-- The kinds under the names that documents use. -/
def variants : List (String × ElementType) :=
  all.map fun type => (type.name, type)

/-- The outline of a kind. -/
def outline (type : ElementType) : Outline := .atom type.label

end ElementType

/-- What an entry point does. -/
inductive Operation where
  | alloc
  | dealloc
deriving Repr, DecidableEq

/-- The end of an entry point's name. -/
def Operation.suffix : Operation → String
  | .alloc => "alloc"
  | .dealloc => "dealloc"

/-- The name of the entry point for an element type and an operation, in a
library whose names start with `stem`. -/
def symbolName (stem : String) (type : ElementType) (operation : Operation) : String :=
  stem ++ type.code ++ "_" ++ operation.suffix

end TypedMemory
