import TypedMemory.Library.Cache
import TypedMemory.Stats

/-!
# The provider of accelerator memory

Accelerator memory is obtained and released by entry points of a kernels library.
Each request asks the cache for the library, looks the entry point up, and calls
it. An empty request calls nothing, but makes sure that a block could be obtained
and released.
-/

namespace TypedMemory

/-- How a provider reaches the memory of a backend: the library to ask for, and
what the names of its entry points start with. -/
structure Route where
  backend : Backend
  path : Path
  stem : String
deriving Repr, DecidableEq

namespace Route

variable {P : Platform}

/-- The route to a backend that is reached through a library. -/
def ofDescriptor (descriptor : Descriptor) : Except Error Route :=
  match descriptor.access with
  | .direct => .error (Misconfiguration.notThroughLibrary descriptor.backend.name).error
  | .library path stem => .ok { backend := descriptor.backend, path, stem }

/-- The descriptor of a route. -/
def descriptor (route : Route) : Descriptor :=
  ⟨route.backend, .library route.path route.stem⟩

/-- The name of an entry point on a route. -/
def symbol (route : Route) (type : ElementType) (operation : Operation) : String :=
  symbolName route.stem type operation

/-- Ask for the library and look an entry point up. -/
def reach (route : Route) (type : ElementType) (operation : Operation) (number : Nat)
    (cache : Cache P) (outside : Outside P) :
    Except Error (EntryPoint P) × Cache P × Outside P :=
  match cache.acquire number route.descriptor outside with
  | (.error error, cache, outside) => (.error error, cache, outside)
  | (.ok loaded, cache, outside) =>
      let (entry, outside) := loaded.resolve (route.symbol type operation) outside
      (entry, cache, outside)

/-- The bytes of a block for the counters, at most as many as a counter holds. -/
def charge (type : ElementType) (length : UInt64) : Nat :=
  min (length.toNat * type.size) (wordLimit - 1)

/-- Make sure that blocks of a type could be obtained and released. -/
def prepare (route : Route) (type : ElementType) (number : Nat) (cache : Cache P)
    (outside : Outside P) : Except Error Unit × Cache P × Outside P :=
  match cache.acquire number route.descriptor outside with
  | (.error error, cache, outside) => (.error error, cache, outside)
  | (.ok loaded, cache, outside) =>
      match loaded.resolve (route.symbol type .alloc) outside with
      | (.error error, outside) => (.error error, cache, outside)
      | (.ok _, outside) =>
          match loaded.resolve (route.symbol type .dealloc) outside with
          | (.error error, outside) => (.error error, cache, outside)
          | (.ok _, outside) => (.ok (), cache, outside)

/-- Obtain a block: its address. The length has to fit the signed argument of the
entry point. -/
def allocate (route : Route) (type : ElementType) (length : UInt64) (number : Nat)
    (stats : Stats) (cache : Cache P) (outside : Outside P) :
    Except Error Nat × Stats × Cache P × Outside P :=
  if signedLimit ≤ length.toNat then
    (.error (.invalidLength (toString length.toNat) type.name "accelerator"
      "length exceeds the signed 64-bit ABI"), stats, cache, outside)
  else
    match route.reach type .alloc number cache outside with
    | (.error error, cache, outside) => (.error error, stats, cache, outside)
    | (.ok entry, cache, outside) =>
        let (address, outside) := entry.callAlloc (Int64.ofNat length.toNat) outside
        if address = 0 then
          (.error (.exhausted (toString length.toNat) type.name "accelerator"
            "backend allocation routine returned null"), stats, cache, outside)
        else
          (.ok address, stats.recordAllocation (charge type length), cache,
            outside.report .debug "accelerator allocation"
              [("dtype", .text type.name), ("length", .count length.toNat),
                ("ptr", .text (Outline.shortAddress address))])

/-- Release a block. A release that fails is counted. -/
def deallocate (route : Route) (type : ElementType) (address : Nat) (length : UInt64)
    (number : Nat) (stats : Stats) (cache : Cache P) (outside : Outside P) :
    Except Error Unit × Stats × Cache P × Outside P :=
  match route.reach type .dealloc number cache outside with
  | (.error error, cache, outside) => (.error error, stats.recordFailedRelease, cache, outside)
  | (.ok entry, cache, outside) =>
      (.ok (), stats.recordRelease (charge type length), cache,
        (entry.callDealloc address outside).report .debug "accelerator release"
          [("dtype", .text type.name), ("length", .count length.toNat),
            ("ptr", .text (Outline.shortAddress address))])

end Route

end TypedMemory
