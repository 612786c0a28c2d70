import TypedMemory.Proofs.Counters
import TypedMemory.Proofs.Loading
import TypedMemory.Proofs.Lookup

/-!
# Releases that load nothing

A provider asks its cache for the library when it releases a block, and a cache opens
what it does not have. That never happens here. The library was cached when the
block was granted, and caches keep their libraries (`World.Reachable.stocked`). So a
release asks no loader and leaves every cache alone; it fails if and only if that
library lacks the entry point that releases (`Session.run_releases_quietly`).
-/

namespace TypedMemory

variable {P : Platform}

/-- The call that an entry tells of, if it tells of one. -/
def Entry.call? : Entry P → Option (LoadedLibrary P × String × Call)
  | .called loaded symbol call => some (loaded, symbol, call)
  | _ => none

namespace Outside

/-- All calls of entry points, in order. -/
def calls (outside : Outside P) : List (LoadedLibrary P × String × Call) :=
  outside.journal.filterMap Entry.call?

@[simp] theorem calls_enter (outside : Outside P) (entry : Entry P) :
    (outside.enter entry).calls = outside.calls ++ entry.call?.toList :=
  filterMap_concat ..

@[simp] theorem calls_report (outside : Outside P) (level : Level) (message : String)
    (fields : List (String × FieldValue)) :
    (outside.report level message fields).calls = outside.calls := by
  unfold report
  rw [calls_enter]
  exact List.append_nil _

end Outside

/-- Handing a library out calls nothing and leaves the platform as it was. -/
theorem LoadedLibrary.handOut_silent (loaded : LoadedLibrary P) (path : Path)
    (outside : Outside P) :
    (loaded.handOut path outside).state = outside.state ∧
      (loaded.handOut path outside).calls = outside.calls := by
  unfold handOut
  split
  · exact ⟨rfl, rfl⟩
  · exact ⟨rfl, outside.calls_report ..⟩

/-- With the library at hand no loader is asked. The block is released, unless the
library lacks the entry point for that, which is then not called. -/
theorem Route.deallocate_of_cached {route : Route} {cache : Cache P} {loaded : LoadedLibrary P}
    (cached : cache.get? route.backend = some loaded) (type : ElementType) (address : Nat)
    (length : UInt64) (number : Nat) (stats : Stats) (outside : Outside P) :
    ∃ answer stats' after,
      route.deallocate type address length number stats cache outside =
        (answer, stats', cache, after) ∧
      after.openings = outside.openings ∧
      (loaded.Lacks (route.symbol type .dealloc) outside.state ∧ (∃ error, answer = .error error) ∧
          after.calls = outside.calls ∨
        ¬ loaded.Lacks (route.symbol type .dealloc) outside.state ∧ answer = .ok ()) := by
  have openings := loaded.handOut_openings route.path outside
  obtain ⟨state, calls⟩ := loaded.handOut_silent route.path outside
  unfold deallocate reach
  rw [Cache.acquire_of_cached cached]
  by_cases lacks : loaded.Lacks (route.symbol type .dealloc) outside.state
  · obtain ⟨error, refused⟩ := LoadedLibrary.resolve_of_lacks (state ▸ lacks)
    simp only [refused]
    exact ⟨_, _, _, rfl, openings, .inl ⟨lacks, ⟨error, rfl⟩, calls⟩⟩
  · obtain ⟨entry, fields, found⟩ := LoadedLibrary.resolve_of_not_lacks (state ▸ lacks)
    simp only [found]
    refine ⟨_, _, _, rfl, ?_, .inr ⟨lacks, rfl⟩⟩
    rw [Outside.openings_report]
    refine (Outside.openings_enter ..).trans ?_
    exact (List.append_nil _).trans ((Outside.openings_report ..).trans openings)

namespace World

variable {caches : Nat → Prop}

/-- Every block that holds memory of a library has that library cached. -/
def Stocked (world : World P) : Prop :=
  ∀ holding, world.Holds holding → ∀ route cache,
    (world.providers holding.provider).source = .library route cache →
      ∃ loaded, (world.caches cache).get? route.backend = some loaded

/-- Only a library that is then cached grants memory of a library. -/
theorem Requested.stocked {world after : World P} {number address : Nat} {type : ElementType}
    {length : UInt64} (requested : world.Requested number type length (.ok address) after)
    (same : (after.providers number).source = (world.providers number).source) {route : Route}
    {cache : Nat} (source : (after.providers number).source = .library route cache) :
    ∃ loaded, (after.caches cache).get? route.backend = some loaded := by
  cases requested with
  | hosted host =>
      rw [same, host] at source
      cases source
  | fetched _ offers =>
      have both := offers.source.symm.trans source
      cases both
      exact ⟨_, offers.offered.cached⟩

/-- Whatever is done, the library of every block that holds memory stays cached. A grant can
only come from a library that is. -/
theorem Effect.stocked {before after : World P} (effect : Effect caches before after)
    (provided : before.Provided) (stocked : before.Stocked) : after.Stocked := by
  intro holding held route cache source
  cases effect with
  | provided added allowed =>
      have older := (Effect.provided added allowed).source (provided holding held)
      exact stocked holding held route cache (older.symm.trans source)
  | idle steady holds | returned _ _ steady _ _ _ _ holds =>
      obtain ⟨loaded, cached⟩ := stocked holding (holds holding held) route cache
        ((steady.source _).symm.trans source)
      exact ⟨loaded, steady.kept _ _ _ cached⟩
  | granted _ granted steady _ requested providers same _ holds =>
      rcases holds holding held with rfl | older
      · have sources := steady.source holding.provider
        rw [providers] at source sources
        rw [same]
        exact requested.stocked sources source
      · obtain ⟨loaded, cached⟩ := stocked holding older route cache
          ((steady.source _).symm.trans source)
        exact ⟨loaded, steady.kept _ _ _ cached⟩

/-- In every reachable world, the library of every block that holds memory is cached. -/
theorem Reachable.stocked {world : World P} (reachable : world.Reachable caches) :
    world.Stocked := by
  induction reachable with
  | fresh state => rintro _ ⟨_, ⟨⟩, _⟩
  | move earlier moved ih => exact (moved.effect earlier.owned).stocked earlier.provided ih

/-- The cached library of a block's provider lacks the entry point that would release
the block. -/
def Unreturnable (world : World P) (block : Block) : Prop :=
  ∃ route cache loaded, (world.providers block.provider).source = .library route cache ∧
    (world.caches cache).get? route.backend = some loaded ∧
    loaded.Lacks (route.symbol block.type .dealloc) world.outside.state

/-- No loader was asked, and no cache changed. -/
structure Quiet (before after : World P) : Prop where
  openings : after.outside.openings = before.outside.openings
  caches : after.caches = before.caches

theorem replace_self {α : Type} (table : Nat → α) (number : Nat) :
    replace table number (table number) = table := by
  funext other
  by_cases same : other = number
  · rw [same, replace_same]
  · exact replace_other _ _ same

/-- The provider of a block has what it takes to take the block back: its library, or
the size of the block. -/
structure Served (world : World P) (block : Block) : Prop where
  stocked : ∀ route cache, (world.providers block.provider).source = .library route cache →
    ∃ loaded, (world.caches cache).get? route.backend = some loaded
  sized : (world.providers block.provider).source = .host →
    ∃ bytes, HostMemory.layout block.type block.length = .ok bytes

/-- In every reachable world, the provider of a block with elements can be given the block back.
-/
theorem Reachable.served {world : World P} (reachable : world.Reachable caches) {number : Nat}
    {block : Block} (present : world.blocks[number]? = some block) (nonempty : block.length ≠ 0) :
    world.Served block := by
  have held : world.Holds block.holding :=
    ⟨block, List.mem_of_getElem? present, decide_eq_false nonempty, rfl⟩
  exact ⟨reachable.stocked _ held, reachable.counted.sized _ held⟩

/-- A block goes back without any loader being asked. It is taken, unless the library lacks the
entry point, and then nothing is called. -/
theorem Served.giveBack {world : World P} {block : Block} (served : world.Served block) :
    ∃ answer after, world.giveBack block.provider block.type block.address block.length =
        (answer, after) ∧ world.Quiet after ∧
      (world.Unreturnable block ∧ (∃ error, answer = .error error) ∧
          after.outside.calls = world.outside.calls ∨
        ¬ world.Unreturnable block ∧ answer = .ok ()) := by
  dsimp only [World.giveBack]
  cases source : (world.providers block.provider).source with
  | host =>
      obtain ⟨bytes, layout⟩ := served.sized source
      refine ⟨_, _, rfl, ?_, .inr ⟨?_, ?_⟩⟩
      · simp only [HostMemory.deallocate, layout]
        exact ⟨Outside.openings_report .., rfl⟩
      · rintro ⟨route, cache, loaded, library, _⟩
        rw [source] at library
        cases library
      · simp only [HostMemory.deallocate, layout]
  | library route cache =>
      obtain ⟨loaded, cached⟩ := served.stocked route cache source
      obtain ⟨answer, stats, after, equation, openings, cases⟩ :=
        Route.deallocate_of_cached cached block.type block.address block.length cache
          (world.providers block.provider).stats world.outside
      simp only [equation]
      refine ⟨_, _, rfl, ⟨openings, replace_self ..⟩, ?_⟩
      rcases cases with ⟨lacks, failed, calls⟩ | ⟨there, ok⟩
      · exact .inl ⟨⟨route, cache, loaded, source, cached, lacks⟩, failed, calls⟩
      · refine .inr ⟨?_, ok⟩
        rintro ⟨_, _, _, library, held, lacks⟩
        cases source.symm.trans library
        cases cached.symm.trans held
        exact there lacks

/-- How the release of a block goes, and that it is quiet. -/
structure Settles (world : World P) (block : Block) (outcome : ReleaseOutcome) (after : World P) :
    Prop where
  quiet : world.Quiet after
  empty : outcome = .empty ↔ block.length = 0
  failed : outcome = .failed ↔ block.length ≠ 0 ∧ world.Unreturnable block
  freed : outcome = .freed ↔ block.length ≠ 0 ∧ ¬ world.Unreturnable block
  uncalled : outcome = .failed → after.outside.calls = world.outside.calls

/-- The release of a block settles it quietly: as empty if it has no elements, as failed if the
entry point is lacking, else as freed. -/
theorem release_settles {world : World P} {block : Block}
    (served : block.length ≠ 0 → world.Served block) (number : Nat) :
    world.Settles block (world.release number block).1 (world.release number block).2 := by
  unfold release
  by_cases none : block.length = 0
  · have empty : block.isEmpty = true := decide_eq_true none
    simp only [empty, ↓reduceIte]
    exact ⟨⟨rfl, rfl⟩, by simp [none], by simp [none], by simp [none], nofun⟩
  · have filled : block.isEmpty = false := decide_eq_false none
    -- Putting the return on record changes nothing that the provider looks at.
    have asking : (world.enter (.returned number block.provider block.type block.address
        block.length)).Served block :=
      ⟨(served none).stocked, (served none).sized⟩
    obtain ⟨answer, after, asked, quiet, answered⟩ := asking.giveBack
    have entered : (world.enter (.returned number block.provider block.type block.address
        block.length)).outside.openings = world.outside.openings :=
      (Outside.openings_enter ..).trans (List.append_nil _)
    have uncalled : (world.enter (.returned number block.provider block.type block.address
        block.length)).outside.calls = world.outside.calls :=
      (Outside.calls_enter ..).trans (List.append_nil _)
    have openings := quiet.openings.trans entered
    simp only [filled, Bool.false_eq_true, ↓reduceIte, asked]
    rcases answered with ⟨lacks, ⟨error, rfl⟩, calls⟩ | ⟨returnable, rfl⟩
    · change world.Unreturnable block at lacks
      refine ⟨⟨?_, quiet.caches⟩, by simp [none], by simp [none, lacks], by simp [lacks], ?_⟩
      · exact (Outside.openings_report ..).trans openings
      · intro _
        exact (Outside.calls_report ..).trans (calls.trans uncalled)
    · change ¬ world.Unreturnable block at returnable
      exact ⟨⟨openings, quiet.caches⟩, by simp [none], by simp [returnable],
        by simp [none, returnable], nofun⟩

/-- The release of a block is a dealing with its provider. -/
theorem release_touches (world : World P) (number : Nat) (block : Block) :
    world.Touches block.provider (world.release number block).2 := by
  unfold release
  split
  · exact ⟨rfl, rfl, rfl, rfl, fun _ => rfl, fun _ _ => rfl, fun _ => .refl _⟩
  · have touches := ((world.enter (.returned number block.provider block.type block.address
      block.length)).giveBack_returned block.provider block.type block.address block.length).1
    rcases asked : (world.enter (.returned number block.provider block.type block.address
      block.length)).giveBack block.provider block.type block.address block.length with
      ⟨error | _, after⟩ <;>
      simp only [asked] at touches ⊢ <;>
      exact ⟨touches.blocks, touches.buffers, touches.nextBuffer, touches.nextProvider,
        touches.source, touches.stats, touches.kept⟩

/-- Retiring a block releases it and puts on record how that went. -/
theorem retire_settles {world : World P} {block : Block}
    (served : block.length ≠ 0 → world.Served block) (number : Nat) :
    ∃ outcome, world.Settles block outcome (world.retire number block) ∧
      (world.retire number block).blocks = (world.settle number outcome).blocks := by
  have settles := release_settles served number
  have same := (world.release_touches number block).blocks
  unfold retire
  rcases released : world.release number block with ⟨outcome, after⟩
  rw [released] at settles same
  obtain ⟨quiet, empty, failed, freed, uncalled⟩ := settles
  refine ⟨outcome, ?_⟩
  dsimp only
  split
  · exact ⟨⟨⟨quiet.openings, quiet.caches⟩, empty, failed, freed, uncalled⟩,
      congrArg (List.modify · number _) same⟩
  · refine ⟨⟨⟨?_, quiet.caches⟩, empty, failed, freed, ?_⟩,
      congrArg (List.modify · number _) same⟩
    · exact (Outside.openings_report ..).trans quiet.openings
    · intro failure
      exact (Outside.calls_report ..).trans (uncalled failure)

/-- Dropping the last buffer of a block puts on record how its release went. -/
theorem Reachable.drop_retires {world : World P} (reachable : world.Reachable caches)
    {buffer number : Nat} {block : Block} (owned : world.blockNumber? buffer = some number)
    (present : world.blocks[number]? = some block) (last : block.owners - 1 = 0) :
    ∃ outcome, world.Settles block outcome (world.drop buffer) ∧
      (world.drop buffer).blocks = ((world.part buffer number).settle number outcome).blocks := by
  let unowned : Block := { block with owners := block.owners - 1 }
  -- Who owns the block plays no part in how it is released.
  have served (nonempty : unowned.length ≠ 0) : (world.part buffer number).Served unowned := by
    obtain ⟨stocked, sized⟩ := reachable.served present nonempty
    exact ⟨stocked, sized⟩
  obtain ⟨outcome, ⟨quiet, empty, failed, freed, uncalled⟩, blocks⟩ :=
    retire_settles served number
  rw [drop_last owned present last]
  exact ⟨outcome, ⟨⟨quiet.openings, quiet.caches⟩, empty, failed, freed, uncalled⟩, blocks⟩

/-- Dropping the last buffer of a block settles the block, with the outcome on record. -/
theorem Reachable.drop_settles {world : World P} (reachable : world.Reachable caches)
    {buffer number : Nat} {block : Block} (owned : world.blockNumber? buffer = some number)
    (present : world.blocks[number]? = some block) (last : world.handles number = 1) :
    ∃ outcome, ((world.drop buffer).blocks[number]?).bind Block.outcome = some outcome ∧
      world.Settles block outcome (world.drop buffer) := by
  have owners : block.owners - 1 = 0 := by
    rw [(reachable.owned.account number block present).owners, last]
  obtain ⟨outcome, settles, blocks⟩ := reachable.drop_retires owned present owners
  refine ⟨outcome, ?_, settles⟩
  rw [blocks]
  simp [settle, modifyBlock, part, present]

end World

/-- **Releases load nothing.** After any session, the library of every live block of
accelerator memory that has elements is cached. So when the last buffer of a block is
dropped, no loader is asked and no cache changes. The block turns out to be empty if
it has no elements; its release fails if it has elements and the cached library of
its provider lacks the entry point that releases, and then nothing is called; and
otherwise it is freed. -/
theorem Session.run_releases_quietly (state : P.State) (steps : List (Step P)) :
    let world := ((start state).run steps).world
    (∀ number block, world.blocks[number]? = some block → 0 < world.handles number →
      block.length ≠ 0 → world.backendOf block = .accelerator →
      ∃ route cache loaded, (world.providers block.provider).source = .library route cache ∧
        (world.caches cache).get? .accelerator = some loaded) ∧
    (∀ buffer number block, world.blockNumber? buffer = some number →
      world.blocks[number]? = some block → world.handles number = 1 →
      let after := world.drop buffer
      after.outside.openings = world.outside.openings ∧ after.caches = world.caches ∧
      ∃ outcome, (after.blocks[number]?).bind Block.outcome = some outcome ∧
        (outcome = .empty ↔ block.length = 0) ∧
        (outcome = .failed ↔ block.length ≠ 0 ∧ world.Unreturnable block) ∧
        (outcome = .freed ↔ block.length ≠ 0 ∧ ¬ world.Unreturnable block) ∧
        (outcome = .failed → after.outside.calls = world.outside.calls)) := by
  intro world
  have reachable : world.Reachable fun _ => True := run_reachable_any state steps
  refine ⟨?_, ?_⟩
  · intro number block present _ nonempty backend
    unfold World.backendOf Provider.backend at backend
    cases source : (world.providers block.provider).source with
    | host =>
        rw [source] at backend
        cases backend
    | library route cache =>
        obtain ⟨loaded, cached⟩ :=
          (reachable.served present nonempty).stocked route cache source
        rw [source] at backend
        exact ⟨route, cache, loaded, rfl, backend ▸ cached⟩
  · intro buffer number block owned present last
    obtain ⟨outcome, recorded, settles⟩ := reachable.drop_settles owned present last
    exact ⟨settles.quiet.openings, settles.quiet.caches, outcome, recorded, settles.empty,
      settles.failed, settles.freed, settles.uncalled⟩

namespace Session

open Simulation

/-- A library can obtain blocks of a type but not release them. Nobody has dropped
the only buffer of such a block yet. -/
def stranded : Session Machine.platform :=
  (start (P := Machine.platform) {}).run
    [.make ⟨some Linker.library, "", "partial_"⟩ 0, .allocate 0 7 .float32 .accelerator]

/-- The block leaks, and no loader is asked for a library that has the entry point. -/
theorem stranded_releases_quietly :
    stranded.world.blockNumber? 0 = some 0 ∧ stranded.world.handles 0 = 1 ∧
    (stranded.world.drop 0).outside.openings = stranded.world.outside.openings ∧
    (stranded.world.drop 0).caches = stranded.world.caches ∧
    ((stranded.world.drop 0).blocks[0]?).bind Block.outcome = some .failed := by
  have owned : stranded.world.blockNumber? 0 = some 0 := by decide +kernel
  have last : stranded.world.handles 0 = 1 := by decide +kernel
  have present : stranded.world.blocks[0]? = some
      { provider := 1, type := .float32, address := 0x600000, length := 7 } := by decide +kernel
  obtain ⟨stocked, settles⟩ := run_releases_quietly (P := Machine.platform) _ _
  obtain ⟨openings, caches, outcome, recorded, _, failed, _⟩ := settles 0 0 _ owned present last
  obtain ⟨route, cache, ⟨backend, path, library⟩, source, cached⟩ :=
    stocked 0 _ present (by decide +kernel) (by decide) (by decide +kernel)
  have reached : (stranded.world.providers 1).source =
      .library ⟨.accelerator, Linker.library, "partial_"⟩ 0 := by decide +kernel
  cases reached.symm.trans source
  have missing (library : LoaderKind) : ∃ reason,
      Machine.lookUp library "partial_f_dealloc" stranded.world.outside.state =
        .missing reason := by
    cases library with
    | device => exact ⟨"undefined symbol: partial_f_dealloc", by decide +kernel⟩
    | linker =>
        exact ⟨"./libkernels.so: undefined symbol: partial_f_dealloc", by decide +kernel⟩
  have lacking : stranded.world.Unreturnable
      { provider := 1, type := .float32, address := 0x600000, length := 7 } :=
    ⟨_, _, _, source, cached, .inr (missing library)⟩
  rw [failed.mpr ⟨by decide, lacking⟩] at recorded
  exact ⟨owned, last, openings, caches, recorded⟩

end Session

end TypedMemory
