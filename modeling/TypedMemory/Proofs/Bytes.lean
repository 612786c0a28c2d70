import Mathlib.Algebra.Group.Nat.Defs
import TypedMemory.Scalar
import TypedMemory.Text.Utf8

/-!
# Elements as bytes

Host memory is a byte for every address. An element takes as many bytes as its type says,
in some encoding that reads back what it wrote and reads zero bytes as zero. Little-endian
words are one such encoding.
-/

namespace TypedMemory

/-- The byte at every address. -/
abbrev Memory := Nat → UInt8

namespace Memory

variable {memory later : Memory} {address count place : Nat} {bytes : Bytes}

/-- So many bytes from an address on. -/
def load (memory : Memory) (address count : Nat) : Bytes :=
  (List.range count).map fun offset => memory (address + offset)

/-- The memory with some bytes written from an address on. -/
def store (memory : Memory) (address : Nat) (bytes : Bytes) : Memory := fun place =>
  if address ≤ place then bytes[place - address]?.getD (memory place) else memory place

/-- What is read depends on the bytes at its addresses only. -/
theorem load_congr
    (same : ∀ place, address ≤ place → place < address + count → later place = memory place) :
    later.load address count = memory.load address count := by
  refine List.map_congr_left fun offset inside => same _ (Nat.le_add_right ..) ?_
  exact Nat.add_lt_add_left (List.mem_range.mp inside) address

/-- Zeros are read as zeros. -/
theorem load_zeros (zero : ∀ place, address ≤ place → place < address + count → memory place = 0) :
    memory.load address count = List.replicate count 0 := by
  refine List.eq_replicate_iff.mpr ⟨by rw [load, List.length_map, List.length_range], ?_⟩
  intro byte member
  obtain ⟨offset, inside, rfl⟩ := List.mem_map.mp member
  exact zero _ (Nat.le_add_right ..) (Nat.add_lt_add_left (List.mem_range.mp inside) address)

/-- A store changes nothing outside of the bytes that it writes. -/
theorem store_apart (apart : place < address ∨ address + bytes.length ≤ place) :
    memory.store address bytes place = memory place := by
  unfold store
  split
  · next below =>
      have beyond : bytes.length ≤ place - address := by omega
      rw [List.getElem?_eq_none beyond, Option.getD_none]
  · rfl

/-- Memory that was zeroed holds zeros. -/
theorem store_zeros (after : address ≤ place) (before : place < address + count) :
    memory.store address (List.replicate count 0) place = 0 := by
  have inside : place - address < count := by omega
  rw [store, if_pos after, List.getElem?_replicate, if_pos inside, Option.getD_some]

/-- What was stored is read back. -/
theorem load_store (memory : Memory) (address : Nat) (bytes : Bytes) :
    (memory.store address bytes).load address bytes.length = bytes := by
  refine List.ext_getElem (by rw [load, List.length_map, List.length_range]) ?_
  intro offset _ inside
  simp only [load, store, List.getElem_map, List.getElem_range, Nat.le_add_right, ↓reduceIte,
    Nat.add_sub_cancel_left, List.getElem?_eq_getElem inside, Option.getD_some]

end Memory

/-- How elements are kept as bytes. -/
structure Encoding where
  bytes : Scalar → Bytes
  value : ElementType → Bytes → Scalar
  length_bytes : ∀ scalar, (bytes scalar).length = scalar.type.size
  value_bytes : ∀ scalar, value scalar.type (bytes scalar) = scalar
  value_zeros : ∀ type, value type (List.replicate type.size 0) = .zero type

/-- The lowest bytes of a number, the lowest first. -/
def littleBytes : Nat → Nat → Bytes
  | 0, _ => []
  | count + 1, number => .ofNat number :: littleBytes count (number / 256)

/-- The number that bytes stand for, the lowest first. -/
def littleNumber : Bytes → Nat
  | [] => 0
  | byte :: bytes => byte.toNat + 256 * littleNumber bytes

/-- A number takes as many bytes as it is given. -/
theorem length_littleBytes (count number : Nat) : (littleBytes count number).length = count := by
  induction count generalizing number with
  | zero => rfl
  | succ count ih => exact congrArg (· + 1) (ih _)

/-- A number that fits comes back from its bytes. -/
theorem littleNumber_littleBytes {count number : Nat} (fits : number < 256 ^ count) :
    littleNumber (littleBytes count number) = number := by
  induction count generalizing number with
  | zero =>
      rw [Nat.pow_zero] at fits
      exact (Nat.lt_one_iff.mp fits).symm
  | succ count ih =>
      have rest : number / 256 < 256 ^ count := by
        rw [Nat.pow_succ] at fits
        exact Nat.div_lt_of_lt_mul (Nat.mul_comm .. ▸ fits)
      simp only [littleBytes, littleNumber, ih rest, UInt8.toNat_ofNat']
      omega

namespace Scalar

/-- The bits of a value, as a number. -/
def bits : Scalar → Nat
  | int8 value => value.toUInt8.toNat
  | uint8 value => value.toNat
  | int32 value => value.toUInt32.toNat
  | uint32 value => value.toNat
  | int64 value => value.toUInt64.toNat
  | float32 bits => bits.toNat
  | float64 bits => bits.toNat
  | bool value => value.toNat

/-- The value of a type that has these bits. -/
def ofBits : ElementType → Nat → Scalar
  | .int8, number => int8 (UInt8.ofNat number).toInt8
  | .uint8, number => uint8 (.ofNat number)
  | .int32, number => int32 (UInt32.ofNat number).toInt32
  | .uint32, number => uint32 (.ofNat number)
  | .int64, number => int64 (UInt64.ofNat number).toInt64
  | .float32, number => float32 (.ofNat number)
  | .float64, number => float64 (.ofNat number)
  | .bool, number => bool (number ≠ 0)

/-- A scalar comes back from its bits. -/
theorem ofBits_bits (scalar : Scalar) : ofBits scalar.type scalar.bits = scalar := by
  cases scalar with
  | bool value => cases value <;> rfl
  | _ => simp [bits, ofBits, type]

/-- The bits of a scalar fit the size of its type. -/
theorem bits_lt (scalar : Scalar) : scalar.bits < 256 ^ scalar.type.size := by
  cases scalar with
  | int8 value => exact value.toUInt8.toNat_lt
  | uint8 value => exact value.toNat_lt
  | int32 value => exact value.toUInt32.toNat_lt
  | uint32 value => exact value.toNat_lt
  | int64 value => exact value.toUInt64.toNat_lt
  | float32 value => exact value.toNat_lt
  | float64 value => exact value.toNat_lt
  | bool value => cases value <;> decide

end Scalar

/-- Elements are words, the lowest byte first. -/
def Encoding.littleEndian : Encoding where
  bytes scalar := littleBytes scalar.type.size scalar.bits
  value type bytes := .ofBits type (littleNumber bytes)
  length_bytes scalar := length_littleBytes ..
  value_bytes scalar := by
    rw [littleNumber_littleBytes scalar.bits_lt]
    exact scalar.ofBits_bits
  value_zeros type := by cases type <;> decide

end TypedMemory
