import TypedMemory.Settings.Manager
import TypedMemory.World.Allocator

/-!
# A running program

A running program has one manager of settings, one cache of libraries that its allocators
share, and one allocator of its own. That allocator is made from the settings in
force when it is first used, and stays as it is from then on.
-/

namespace TypedMemory

/-- The number of the cache that the allocators of a program share. -/
def sharedCache : Nat := 0

/-- The settings, the world, and the program's own allocator once it is made. -/
structure Program (P : Platform) where
  world : World P
  manager : Manager := {}
  own : Option Allocator := none

namespace World

variable {P : Platform}

/-- Make an allocator from settings that uses the shared cache. -/
def addSharedAllocator (world : World P) (settings : Settings) (environment : Environment) :
    Allocator × World P :=
  world.addAllocator (.ofSettings settings.accelerator environment) sharedCache

/-- Ask a cache for the library that a backend is reached through. -/
def acquire (world : World P) (number : Nat) (descriptor : Descriptor) :
    Except Error (LoadedLibrary P) × World P :=
  let (result, cache, outside) :=
    (world.caches number).acquire number descriptor world.outside
  (result, { world with outside, caches := replace world.caches number cache })

end World

namespace Program

variable {P : Platform}

/-- The program's own allocator, made now if this is its first use. -/
def allocator (program : Program P) (environment : Environment) : Allocator × Program P :=
  match program.own with
  | some allocator => (allocator, program)
  | none =>
      let (allocator, world) :=
        program.world.addSharedAllocator program.manager.settings environment
      (allocator, { program with world, own := some allocator })

/-- Serve a request with the program's own allocator. -/
def allocate (program : Program P) (environment : Environment) (length : Int64)
    (type : ElementType) (backend : Backend) : Except Error Nat × Program P :=
  let (allocator, program) := program.allocator environment
  let (result, world) := program.world.allocate allocator length type backend
  (result, { program with world })

end Program

end TypedMemory
