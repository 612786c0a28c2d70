import TypedMemory.Outline

/-!
# Words and counters

Lengths, sizes and counters are words of 64 bits. The limits are written out, so
that they are numerals wherever they are compared with something. Each provider
counts its allocations, its releases, the releases that failed, and the bytes that
are out. All four counters wrap around. A release that failed leaves its bytes
charged, because the memory was not given back.
-/

namespace TypedMemory

/-- How many values a word has: two to the power of 64. -/
def wordLimit : Nat := 18446744073709551616

/-- How many of them are not negative in a signed word: two to the power of 63. -/
def signedLimit : Nat := 9223372036854775808

/-- The counters of a provider. -/
structure Stats where
  allocations : UInt64 := 0
  releases : UInt64 := 0
  failedReleases : UInt64 := 0
  liveBytes : UInt64 := 0
deriving Repr, DecidableEq

namespace Stats

/-- Count an allocation. -/
def recordAllocation (stats : Stats) (bytes : Nat) : Stats :=
  { stats with
    allocations := stats.allocations + 1
    liveBytes := stats.liveBytes + UInt64.ofNat bytes }

/-- Count a release. -/
def recordRelease (stats : Stats) (bytes : Nat) : Stats :=
  { stats with
    releases := stats.releases + 1
    liveBytes := stats.liveBytes - UInt64.ofNat bytes }

/-- Count a release that failed. -/
def recordFailedRelease (stats : Stats) : Stats :=
  { stats with failedReleases := stats.failedReleases + 1 }

/-- The outline of counters, under the name of what holds them. -/
def outline (name : String) (stats : Stats) : Outline :=
  .record name
    [("allocations", .number stats.allocations.toNat), ("releases", .number stats.releases.toNat),
      ("failed_releases", .number stats.failedReleases.toNat),
      ("live_bytes", .number stats.liveBytes.toNat)]

end Stats

end TypedMemory
