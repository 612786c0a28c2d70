import TypedMemory.Provider.Accelerator
import TypedMemory.Provider.Host
import TypedMemory.Scalar

/-!
# The world of allocators and buffers

A block is memory that some provider granted, shared by the buffers that own it.
The world holds the providers, the caches that accelerator providers share, all
blocks there ever were, and the buffers that are live. Providers, caches, blocks
and buffers are known by number. Providers and caches are never removed, because
a buffer keeps its provider alive; a block stays on record when its last buffer
is gone, with the way its release went.
-/

namespace TypedMemory

/-- What a provider provides, and from where. -/
inductive Source where
  /-- Host memory. -/
  | host
  /-- Memory that is reached through a library, from the cache of this number. -/
  | library (route : Route) (cache : Nat)
deriving Repr, DecidableEq

/-- A provider: its source of memory, and its counters. -/
structure Provider where
  source : Source := .host
  stats : Stats := {}
deriving Repr, DecidableEq

namespace Provider

/-- The backend whose memory a provider provides. -/
def backend (provider : Provider) : Backend :=
  match provider.source with
  | .host => .host
  | .library route _ => route.backend

/-- The outline of a provider. -/
def outline (provider : Provider) : Outline :=
  match provider.source with
  | .host => .record "HostBackend" [("stats", provider.stats.outline "StatsCounter")]
  | .library route _ =>
      .record "AcceleratorBackend"
        [("descriptor", route.descriptor.outline), ("stats", provider.stats.outline "BackendStats")]

end Provider

/-- How the release of a block went. -/
inductive ReleaseOutcome where
  /-- The provider took the memory back. -/
  | freed
  /-- There was no memory to give back. -/
  | empty
  /-- The provider did not take the memory back. -/
  | failed
deriving Repr, DecidableEq

/-- A block of elements. -/
structure Block where
  /-- The provider that granted the memory, and takes it back. -/
  provider : Nat
  type : ElementType
  address : Nat
  length : UInt64
  /-- How many buffers own the block. -/
  owners : Nat := 1
  /-- The elements that were written, the latest first. -/
  written : List (Nat × Scalar) := []
  /-- How the release went, once no buffer owns the block. -/
  outcome : Option ReleaseOutcome := none
deriving Repr, DecidableEq

namespace Block

/-- Whether a block has no elements. -/
def isEmpty (block : Block) : Bool := block.length = 0

/-- The element at an index: what was last written there, or zero. -/
def element (block : Block) (index : Nat) : Scalar :=
  (block.written.lookup index).getD (.zero block.type)

/-- The block with an element written. -/
def write (block : Block) (index : Nat) (value : Scalar) : Block :=
  { block with written := (index, value) :: block.written }

/-- All elements, in order. -/
def elements (block : Block) : List Scalar :=
  (List.range block.length.toNat).map block.element

end Block

/-- A live buffer: its own number, and the block it owns a share of. -/
structure Buffer where
  number : Nat
  block : Nat
deriving Repr, DecidableEq

/-- Providers, caches, blocks and buffers, and what lies outside. -/
structure World (P : Platform) where
  outside : Outside P
  /-- The caches, each under its number. -/
  caches : Nat → Cache P := fun _ => {}
  /-- The providers, each under its number. -/
  providers : Nat → Provider := fun _ => {}
  /-- The number of the next provider. -/
  nextProvider : Nat := 0
  /-- All blocks, each at its number. -/
  blocks : List Block := []
  /-- The live buffers. -/
  buffers : List Buffer := []
  /-- The number of the next buffer. -/
  nextBuffer : Nat := 0

/-- A table with the entry of one number replaced. -/
def replace {α : Type} (table : Nat → α) (number : Nat) (value : α) : Nat → α :=
  fun other => if other = number then value else table other

@[simp] theorem replace_same {α : Type} (table : Nat → α) (number : Nat) (value : α) :
    replace table number value number = value := by
  simp [replace]

@[simp] theorem replace_other {α : Type} (table : Nat → α) {number other : Nat} (value : α)
    (different : other ≠ number) : replace table number value other = table other := by
  simp [replace, different]

namespace World

variable {P : Platform}

/-- Report an event. -/
def report (world : World P) (level : Level) (message : String)
    (fields : List (String × FieldValue)) : World P :=
  { world with outside := world.outside.report level message fields }

/-- Enter something in the journal. -/
def enter (world : World P) (entry : Entry P) : World P :=
  { world with outside := world.outside.enter entry }

/-- Add a provider: its number. -/
def addProvider (world : World P) (source : Source) : Nat × World P :=
  (world.nextProvider,
    { world with
      providers := replace world.providers world.nextProvider { source }
      nextProvider := world.nextProvider + 1 })

/-- Add a provider of what a descriptor describes, with libraries from a cache. -/
def addAccelerator (world : World P) (descriptor : Descriptor) (cache : Nat) :
    Except Error Nat × World P :=
  match Route.ofDescriptor descriptor with
  | .error error => (.error error, world)
  | .ok route =>
      let (number, world) := world.addProvider (.library route cache)
      (.ok number, world)

/-- Ask a provider for the memory of a block. -/
def request (world : World P) (number : Nat) (type : ElementType) (length : UInt64) :
    Except Error Nat × World P :=
  let provider := world.providers number
  match provider.source with
  | .host =>
      let (result, stats, outside) := HostMemory.allocate type length provider.stats world.outside
      (result,
        { world with
          outside, providers := replace world.providers number { provider with stats } })
  | .library route cacheNumber =>
      let (result, stats, cache, outside) :=
        route.allocate type length cacheNumber provider.stats (world.caches cacheNumber)
          world.outside
      (result,
        { world with
          outside
          caches := replace world.caches cacheNumber cache
          providers := replace world.providers number { provider with stats } })

/-- Ask a provider to make sure that blocks of a type could be had. -/
def prepare (world : World P) (number : Nat) (type : ElementType) : Except Error Unit × World P :=
  match (world.providers number).source with
  | .host => (.ok (), world)
  | .library route cacheNumber =>
      let (result, cache, outside) :=
        route.prepare type cacheNumber (world.caches cacheNumber) world.outside
      (result, { world with outside, caches := replace world.caches cacheNumber cache })

/-- Give the memory of a block back to a provider. -/
def giveBack (world : World P) (number : Nat) (type : ElementType) (address : Nat)
    (length : UInt64) : Except Error Unit × World P :=
  let provider := world.providers number
  match provider.source with
  | .host =>
      let (result, stats, outside) :=
        HostMemory.deallocate type address length provider.stats world.outside
      (result,
        { world with
          outside, providers := replace world.providers number { provider with stats } })
  | .library route cacheNumber =>
      let (result, stats, cache, outside) :=
        route.deallocate type address length cacheNumber provider.stats (world.caches cacheNumber)
          world.outside
      (result,
        { world with
          outside
          caches := replace world.caches cacheNumber cache
          providers := replace world.providers number { provider with stats } })

end World

end TypedMemory
