import TypedMemory.Journal
import TypedMemory.Stats

/-!
# The provider of host memory

Host memory is obtained zeroed and naturally aligned. The size of a block is not
kept with it: it is computed again from the length when the block is given back.
-/

namespace TypedMemory

namespace HostMemory

variable {P : Platform}

/-- The number of bytes of a block, if there can be a block of that size. The
size, rounded up to the alignment, has to stay below `2 ^ 63`. -/
def layout (type : ElementType) (length : UInt64) : Except Error Nat :=
  let bytes := length.toNat * type.size
  let refuse (reason : String) : Except Error Nat :=
    .error (.invalidLength (toString length.toNat) type.name "host" reason)
  if wordLimit ≤ bytes then refuse "size overflows usize"
  else if signedLimit - type.alignment < bytes then
    refuse "invalid layout: invalid parameters to Layout::from_size_align"
  else .ok bytes

/-- Obtain a block: its address. A block without elements has no memory, and its
address is only well aligned. -/
def allocate (type : ElementType) (length : UInt64) (stats : Stats) (outside : Outside P) :
    Except Error Nat × Stats × Outside P :=
  match layout type length with
  | .error error => (.error error, stats, outside)
  | .ok bytes =>
      if bytes = 0 then (.ok type.alignment, stats.recordAllocation 0, outside)
      else
        let (address, state) := P.hostAlloc bytes type.alignment outside.state
        let outside := { outside with state }
        if address = 0 then
          (.error (.exhausted (toString length.toNat) type.name "host"
            "global allocator returned null"), stats, outside)
        else
          (.ok address, stats.recordAllocation bytes,
            outside.report .debug "host allocation"
              [("dtype", .text type.name), ("length", .count length.toNat),
                ("bytes", .count bytes)])

/-- Give a block back. -/
def deallocate (type : ElementType) (address : Nat) (length : UInt64) (stats : Stats)
    (outside : Outside P) : Except Error Unit × Stats × Outside P :=
  match layout type length with
  | .error error => (.error error, stats, outside)
  | .ok bytes =>
      let state :=
        if bytes = 0 then outside.state
        else P.hostFree address bytes type.alignment outside.state
      (.ok (), stats.recordRelease bytes,
        { outside with state }.report .debug "host release"
          [("dtype", .text type.name), ("length", .count length.toNat)])

end HostMemory

end TypedMemory
