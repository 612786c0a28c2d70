import TypedMemory.World.Basic

/-!
# Allocators

An allocator serves requests for buffers on either backend. It has a host
provider of its own, and an accelerator provider if its registry knows how to
reach one. A request that fails leaves no block behind.
-/

namespace TypedMemory

/-- A registry, and the numbers of the providers that serve its backends. -/
structure Allocator where
  registry : Registry
  host : Nat
  accelerator : Option Nat
deriving Repr, DecidableEq

namespace World

variable {P : Platform}

/-- Make an allocator whose accelerator takes its library from a cache. -/
def addAllocator (world : World P) (registry : Registry) (cache : Nat) :
    Allocator × World P :=
  let (host, world) := world.addProvider .host
  let (accelerator, world) :=
    match registry.resolve .accelerator with
    | .error _ => (none, world)
    | .ok descriptor =>
        match world.addAccelerator descriptor cache with
        | (.error _, world) => (none, world)
        | (.ok number, world) => (some number, world)
  ({ registry, host, accelerator }, world)

end World

namespace Allocator

variable {P : Platform}

/-- The number of the provider that serves a backend. -/
def provider (allocator : Allocator) (backend : Backend) : Except Error Nat :=
  match allocator.registry.resolve backend with
  | .error error => .error error
  | .ok descriptor =>
      match descriptor.access with
      | .direct => .ok allocator.host
      | .library _ _ =>
          match allocator.accelerator with
          | some number => .ok number
          | none => .error (Misconfiguration.notConfigured backend.name).error

/-- The counters of the host provider. -/
def hostStats (allocator : Allocator) (world : World P) : Stats :=
  (world.providers allocator.host).stats

/-- The counters of the accelerator provider, if there is one. -/
def acceleratorStats? (allocator : Allocator) (world : World P) : Option Stats :=
  allocator.accelerator.map fun number => (world.providers number).stats

/-- The outline of an allocator. -/
def outline (allocator : Allocator) (world : World P) : Outline :=
  .record "TypedAllocator"
    [("registry", allocator.registry.outline),
      ("host", (world.providers allocator.host).outline),
      ("accelerator",
        .optional (fun number => (world.providers number).outline) allocator.accelerator)]

end Allocator

namespace World

variable {P : Platform}

/-- Add a block, and a buffer that owns it: the buffer's number. -/
def addBlock (world : World P) (block : Block) : Nat × World P :=
  (world.nextBuffer,
    { world with
      blocks := world.blocks ++ [block]
      buffers := world.buffers ++ [⟨world.nextBuffer, world.blocks.length⟩]
      nextBuffer := world.nextBuffer + 1 })

/-- Obtain a buffer of so many elements from a provider. A buffer without elements
obtains nothing; its address is only well aligned. -/
def obtainBuffer (world : World P) (provider : Nat) (type : ElementType) (length : UInt64) :
    Except Error Nat × World P :=
  if length = 0 then
    match world.prepare provider type with
    | (.error error, world) => (.error error, world)
    | (.ok _, world) =>
        let (buffer, world) :=
          world.addBlock { provider, type, address := type.alignment, length }
        (.ok buffer, world)
  else
    match world.request provider type length with
    | (.error error, world) => (.error error, world)
    | (.ok address, world) =>
        let block := world.blocks.length
        let (buffer, world) := world.addBlock { provider, type, address, length }
        (.ok buffer, world.enter (.granted block provider type address length))

/-- Serve a request for a buffer of so many elements of a type on a backend: the
buffer's number. A negative length is refused before anything is asked. -/
def allocate (world : World P) (allocator : Allocator) (length : Int64) (type : ElementType)
    (backend : Backend) : Except Error Nat × World P :=
  if length < 0 then
    (.error (.invalidLength (toString length.toInt) type.name backend.name "negative length"),
      world)
  else
    match allocator.provider backend with
    | .error error => (.error error, world)
    | .ok provider => world.obtainBuffer provider type (UInt64.ofNat length.toInt.toNat)

/-- Serve a request that names the element type and the backend by text. -/
def allocateNamed (world : World P) (allocator : Allocator) (length : Int64)
    (type backend : String) : Except Error Nat × World P :=
  match Backend.parse backend with
  | .error error => (.error error, world)
  | .ok backend =>
      match ElementType.parse type with
      | .error error => (.error error, world)
      | .ok type => world.allocate allocator length type backend

end World

end TypedMemory
