import TypedMemory.World.Basic

/-!
# Buffers

A buffer owns a share of a block. Cloning a buffer makes another owner of the same
block. When the last owner is dropped, the memory goes back to the provider that
granted it, once. A release that fails is reported and never raised.
-/

namespace TypedMemory

namespace World

variable {P : Platform}

/-- The number of the block that a live buffer owns. -/
def blockNumber? (world : World P) (buffer : Nat) : Option Nat :=
  (world.buffers.find? fun live => live.number = buffer).map Buffer.block

/-- The block that a live buffer owns. -/
def block? (world : World P) (buffer : Nat) : Option Block :=
  (world.blockNumber? buffer).bind fun number => world.blocks[number]?

/-- The backend of a block. -/
def backendOf (world : World P) (block : Block) : Backend :=
  (world.providers block.provider).backend

/-- Change a block. -/
def modifyBlock (world : World P) (number : Nat) (change : Block → Block) : World P :=
  { world with blocks := world.blocks.modify number change }

/-- Make another owner of the block that a buffer owns: the new buffer's
number. -/
def clone? (world : World P) (buffer : Nat) : Option (Nat × World P) :=
  (world.blockNumber? buffer).map fun number =>
    (world.nextBuffer,
      { world.modifyBlock number fun block => { block with owners := block.owners + 1 } with
        buffers := world.buffers ++ [⟨world.nextBuffer, number⟩]
        nextBuffer := world.nextBuffer + 1 })

/-- Give the memory of a block back to the provider that granted it. -/
def release (world : World P) (number : Nat) (block : Block) : ReleaseOutcome × World P :=
  if block.isEmpty then (.empty, world)
  else
    let backend := world.backendOf block
    let world :=
      world.enter (.returned number block.provider block.type block.address block.length)
    match world.giveBack block.provider block.type block.address block.length with
    | (.ok _, world) => (.freed, world)
    | (.error error, world) =>
        (.failed,
          world.report .error "failed to release buffer; backend memory is leaked"
            [("backend", .text backend.name), ("dtype", .text block.type.name),
              ("length", .count block.length.toNat),
              ("ptr", .text (Outline.shortAddress block.address)),
              ("error", .text error.message)])

/-- Release a block that no buffer owns any more, and put on record how that
went. -/
def retire (world : World P) (number : Nat) (block : Block) : World P :=
  let (outcome, world) := world.release number block
  let world := world.modifyBlock number fun block => { block with outcome := some outcome }
  if outcome = .failed then world
  else
    world.report .trace "buffer released"
      [("backend", .text (world.backendOf block).name), ("dtype", .text block.type.name),
        ("length", .count block.length.toNat)]

/-- Drop a buffer. The block is released with its last owner. -/
def drop (world : World P) (buffer : Nat) : World P :=
  match world.blockNumber? buffer with
  | none => world
  | some number =>
      let world :=
        { world.modifyBlock number fun block => { block with owners := block.owners - 1 } with
          buffers := world.buffers.filter fun live => live.number ≠ buffer }
      match world.blocks[number]? with
      | none => world
      | some block => if block.owners = 0 then world.retire number block else world

/-- Read an element of a buffer in host memory. -/
def read? (world : World P) (buffer index : Nat) : Option Scalar :=
  match world.block? buffer with
  | none => none
  | some block =>
      if (world.backendOf block).isHostAccessible ∧ index < block.length.toNat then
        some (block.element index)
      else none

/-- Write an element of a buffer in host memory. -/
def write? (world : World P) (buffer index : Nat) (value : Scalar) : Option (World P) :=
  match world.blockNumber? buffer with
  | none => none
  | some number =>
      match world.blocks[number]? with
      | none => none
      | some block =>
          if (world.backendOf block).isHostAccessible ∧ index < block.length.toNat ∧
              value.type = block.type then
            some (world.modifyBlock number (·.write index value))
          else none

/-- All elements of a block, if it is in host memory. -/
def slice? (world : World P) (block : Block) : Option (List Scalar) :=
  if (world.backendOf block).isHostAccessible then some block.elements else none

/-- The outline of how a block will be released. -/
def strategyOutline (world : World P) (block : Block) : Outline :=
  .record "DeletionStrategy"
    [("backend", (world.backendOf block).outline), ("element_type", block.type.outline)]

/-- The outline of a buffer that owns a block, with the address given as an
outline. -/
def bufferOutline (world : World P) (block : Block) (address : Outline) : Outline :=
  .wrapped block.type.label
    (.record "OwnedBuffer"
      [("element_type", block.type.outline), ("backend", (world.backendOf block).outline),
        ("length", .number block.length.toNat), ("owners", .number block.owners),
        ("ptr", address)])

end World

end TypedMemory
