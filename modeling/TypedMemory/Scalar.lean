import TypedMemory.ElementType

/-!
# Elements

A value of one of the element types. Floating-point elements are kept as their
bits, since storing and loading them must not change a single one.
-/

namespace TypedMemory

/-- A value that an element can have. -/
inductive Scalar where
  | int8 (value : Int8)
  | uint8 (value : UInt8)
  | int32 (value : Int32)
  | uint32 (value : UInt32)
  | int64 (value : Int64)
  | float32 (bits : UInt32)
  | float64 (bits : UInt64)
  | bool (value : Bool)
deriving Repr, DecidableEq

namespace Scalar

/-- The element type of a value. -/
def type : Scalar → ElementType
  | int8 _ => .int8
  | uint8 _ => .uint8
  | int32 _ => .int32
  | uint32 _ => .uint32
  | int64 _ => .int64
  | float32 _ => .float32
  | float64 _ => .float64
  | bool _ => .bool

/-- The value of an element whose bytes are all zero. -/
def zero : ElementType → Scalar
  | .int8 => int8 0
  | .uint8 => uint8 0
  | .int32 => int32 0
  | .uint32 => uint32 0
  | .int64 => int64 0
  | .float32 => float32 0
  | .float64 => float64 0
  | .bool => bool false

@[simp] theorem type_zero (type : ElementType) : (zero type).type = type := by
  cases type <;> rfl

end Scalar

end TypedMemory
