import TypedMemory.ElementType
import TypedMemory.Journal

/-!
# The cache of opened libraries

A cache keeps at most one library for each backend. A library is opened when it
is first asked for and is kept from then on: later requests get the same one,
whatever path they name. A library that does not open leaves the cache as it was,
so the next request tries again.

Many may ask at once. A request therefore has two steps, each of which nobody
else can interrupt: a look at what is there, shared with other readers, and, if
that finds nothing, a second look and the opening, alone.
-/

namespace TypedMemory

/-- The libraries that were opened, and how many times one was. -/
structure Cache (P : Platform) where
  libraries : List (LoadedLibrary P) := []
  loads : UInt64 := 0

namespace LoadedLibrary

variable {P : Platform}

/-- Hand a library out to a request that names a path. If it was opened from
somewhere else, that is reported. -/
def handOut (loaded : LoadedLibrary P) (requested : Path) (outside : Outside P) : Outside P :=
  if loaded.path.sameAs requested then outside
  else
    outside.report .warn "kernels library already loaded from a different path; reusing it"
      [("cached", .text loaded.path.display), ("requested", .text requested.display)]

end LoadedLibrary

namespace Cache

variable {P : Platform}

/-- The library that was opened for a backend. -/
def get? (cache : Cache P) (backend : Backend) : Option (LoadedLibrary P) :=
  cache.libraries.find? fun loaded => loaded.backend = backend

/-- The first step of a request: look for the library. -/
def look (cache : Cache P) (backend : Backend) (path : Path) (outside : Outside P) :
    Option (LoadedLibrary P) × Outside P :=
  match cache.get? backend with
  | some loaded => (some loaded, loaded.handOut path outside)
  | none => (none, outside)

/-- The second step of a request: look again, and open the library if it is still
not there. The cache is the one of number `number`, which is also the number of
its loader. -/
def load (number : Nat) (cache : Cache P) (backend : Backend) (path : Path)
    (outside : Outside P) : Except Error (LoadedLibrary P) × Cache P × Outside P :=
  match cache.get? backend with
  | some loaded => (.ok loaded, cache, loaded.handOut path outside)
  | none =>
      match P.openLibrary number path outside.state with
      | (.error error, state) =>
          (.error error, cache,
            ({ outside with state }.enter (.opened number backend path false)).report .error
              "failed to load kernels library"
              [("library", .text path.display), ("error", .text error.message)])
      | (.ok library, state) =>
          let loaded : LoadedLibrary P := { backend, path, library }
          (.ok loaded,
            { libraries := cache.libraries ++ [loaded], loads := cache.loads + 1 },
            ({ outside with state }.enter (.opened number backend path true)).report .info
              "loaded kernels library"
              [("backend", .text backend.name), ("library", .text path.display)])

/-- A request for the library that a backend is reached through. -/
def acquire (number : Nat) (cache : Cache P) (descriptor : Descriptor) (outside : Outside P) :
    Except Error (LoadedLibrary P) × Cache P × Outside P :=
  match descriptor.access with
  | .direct =>
      (.error (Misconfiguration.noSupportLibrary descriptor.backend.name).error, cache, outside)
  | .library path _ =>
      match cache.look descriptor.backend path outside with
      | (some loaded, outside) => (.ok loaded, cache, outside)
      | (none, outside) => cache.load number descriptor.backend path outside

/-- The outline of a cache. -/
def outline (cache : Cache P) : Outline :=
  .record "LibraryCache"
    [("handles", .mapping (cache.libraries.map fun loaded =>
        (loaded.backend.label, loaded.outline))),
      ("loads", .number cache.loads.toNat)]

end Cache

/-- A routine of an opened library, found by its name. -/
structure EntryPoint (P : Platform) where
  loaded : LoadedLibrary P
  name : String
  routine : P.Routine

/-- Look an entry point up. A name that is missing or stands for a null address is
an error. -/
def LoadedLibrary.resolve {P : Platform} (loaded : LoadedLibrary P) (name : String)
    (outside : Outside P) : Except Error (EntryPoint P) × Outside P :=
  match P.lookUp loaded.library name outside.state with
  | .missing reason => (.error (.symbolResolution name reason), outside)
  | .null => (.error (.symbolResolution name "symbol resolved to a null address"), outside)
  | .found routine =>
      (.ok { loaded, name, routine },
        outside.report .trace "resolved entry point"
          [("symbol", .text name), ("library", .text loaded.path.display)])

namespace EntryPoint

variable {P : Platform}

/-- Call an entry point that obtains a block: the address that it gives. -/
def callAlloc (entry : EntryPoint P) (length : Int64) (outside : Outside P) : Nat × Outside P :=
  let (address, state) := P.callAlloc entry.routine length outside.state
  (address, { outside with state }.enter (.called entry.loaded entry.name (.alloc length address)))

/-- Call an entry point that releases a block. -/
def callDealloc (entry : EntryPoint P) (address : Nat) (outside : Outside P) : Outside P :=
  let state := P.callDealloc entry.routine address outside.state
  { outside with state }.enter (.called entry.loaded entry.name (.dealloc address))

end EntryPoint

end TypedMemory
