import TypedMemory.Proofs.Agreement
import TypedMemory.Proofs.Lengths

/-!
# Inquiries that find their library

Every dealing with a library starts with an inquiry at a cache. If the library is
there, the inquiry leaves the cache alone and asks no loader. It warns once, if it
names another path than the library was opened from (`World.Heeds`). A session whose
steps ask one allocator only, with its library cached, makes no other inquiries
(`Session.Equipped.run`).
-/

namespace TypedMemory

variable {P : Platform}

/-- The warning that an entry reports, if it reports one. -/
def Entry.warning? : Entry P → Option Event
  | .reported event => if event.level = .warn then some event else none
  | _ => none

namespace Outside

/-- All warnings, in order. -/
def warnings (outside : Outside P) : List Event := outside.journal.filterMap Entry.warning?

/-- No loader was asked, and there was no warning. -/
structure Calm (before after : Outside P) : Prop where
  openings : after.openings = before.openings
  warnings : after.warnings = before.warnings

theorem Calm.refl (outside : Outside P) : outside.Calm outside := ⟨rfl, rfl⟩

/-- Nothing was opened and nothing warned of in either part. -/
theorem Calm.trans {first second third : Outside P} (early : first.Calm second)
    (late : second.Calm third) : first.Calm third :=
  ⟨late.openings.trans early.openings, late.warnings.trans early.warnings⟩

/-- An entry adds its own warning, if it is one. -/
theorem warnings_enter (outside : Outside P) (entry : Entry P) :
    (outside.enter entry).warnings = outside.warnings ++ entry.warning?.toList :=
  filterMap_concat ..

/-- An entry that is neither an opening nor a warning goes unnoticed. -/
theorem calm_enter (outside : Outside P) (entry : Entry P) (unopened : entry.opening? = none)
    (unwarned : entry.warning? = none) : outside.Calm (outside.enter entry) where
  openings := by
    rw [openings_enter, unopened]
    exact List.append_nil _
  warnings := by
    rw [warnings_enter, unwarned]
    exact List.append_nil _

/-- Only reports of the level of warnings are warnings. -/
theorem calm_report (outside : Outside P) (level : Level) (message : String)
    (fields : List (String × FieldValue)) (mild : level ≠ .warn) :
    outside.Calm (outside.report level message fields) :=
  outside.calm_enter _ rfl (if_neg mild)

/-- The state of the platform has no part in what was opened or warned of. -/
theorem calm_state (outside : Outside P) (state : P.State) : outside.Calm { outside with state } :=
  ⟨rfl, rfl⟩

/-- A call of an entry point opens nothing and warns of nothing. -/
theorem calm_called (outside : Outside P) (state : P.State) (entry : EntryPoint P) (call : Call) :
    outside.Calm (enter { outside with state } (.called entry.loaded entry.name call)) :=
  (outside.calm_state state).trans (calm_enter _ _ rfl rfl)

end Outside

open Outside

namespace LoadedLibrary

/-- The warning to a request that names another path than the library was opened
from. -/
def complaint? (loaded : LoadedLibrary P) (requested : Path) : Option Event :=
  if loaded.path.sameAs requested then none
  else some
    { level := .warn
      message := "kernels library already loaded from a different path; reusing it"
      fields :=
        [("cached", .text loaded.path.display), ("requested", .text requested.display)] }

/-- Handing a library out is warned of exactly if it was opened from another path. -/
theorem handOut_warnings (loaded : LoadedLibrary P) (path : Path) (outside : Outside P) :
    (loaded.handOut path outside).warnings =
      outside.warnings ++ (loaded.complaint? path).toList := by
  unfold handOut complaint?
  split
  · exact (List.append_nil _).symm
  · exact warnings_enter ..

/-- Looking a name up opens nothing and warns of nothing. -/
theorem resolve_calm (loaded : LoadedLibrary P) (name : String) (outside : Outside P) :
    outside.Calm (loaded.resolve name outside).2 := by
  unfold resolve
  split
  · exact .refl outside
  · exact .refl outside
  · exact outside.calm_report .trace _ _ (by decide)

end LoadedLibrary

namespace Route

variable {route : Route} {cache : Cache P} {loaded : LoadedLibrary P}

/-- With the library at hand, reaching for an entry point hands the library out and does nothing
else that is noticed. -/
theorem reach_of_cached (cached : cache.get? route.backend = some loaded) (type : ElementType)
    (operation : Operation) (number : Nat) (outside : Outside P) :
    ∃ answer after, route.reach type operation number cache outside = (answer, cache, after) ∧
      (loaded.handOut route.path outside).Calm after := by
  unfold reach
  rw [Cache.acquire_of_cached cached]
  exact ⟨_, _, rfl, loaded.resolve_calm ..⟩

/-- The same holds of making sure that blocks could be had, although two entry points are looked
up: the library is handed out once. -/
theorem prepare_of_cached (cached : cache.get? route.backend = some loaded) (type : ElementType)
    (number : Nat) (outside : Outside P) :
    ∃ answer after, route.prepare type number cache outside = (answer, cache, after) ∧
      (loaded.handOut route.path outside).Calm after := by
  unfold prepare
  rw [Cache.acquire_of_cached cached]
  have first :=
    loaded.resolve_calm (route.symbol type .alloc) (loaded.handOut route.path outside)
  rcases looked : loaded.resolve (route.symbol type .alloc) (loaded.handOut route.path outside)
    with ⟨error | entry, after⟩
  · rw [looked] at first
    simp only [looked]
    exact ⟨_, _, rfl, first⟩
  · rw [looked] at first
    have second := first.trans (loaded.resolve_calm (route.symbol type .dealloc) after)
    simp only [looked]
    rcases again : loaded.resolve (route.symbol type .dealloc) after with ⟨error | entry, later⟩ <;>
      rw [again] at second <;>
      exact ⟨_, _, rfl, second⟩

/-- The same holds of obtaining a block, unless it is too long to be asked for at all. -/
theorem allocate_of_cached (cached : cache.get? route.backend = some loaded) (type : ElementType)
    {length : UInt64} (short : length.toNat < signedLimit) (number : Nat) (stats : Stats)
    (outside : Outside P) :
    ∃ answer stats' after, route.allocate type length number stats cache outside =
        (answer, stats', cache, after) ∧
      (loaded.handOut route.path outside).Calm after := by
  obtain ⟨answer, after, reached, calm⟩ := reach_of_cached cached type .alloc number outside
  unfold allocate
  rw [if_neg (Nat.not_le_of_lt short), reached]
  cases answer with
  | error error => exact ⟨_, _, _, rfl, calm⟩
  | ok entry =>
      dsimp only [EntryPoint.callAlloc]
      split
      · exact ⟨_, _, _, rfl, calm.trans (after.calm_called ..)⟩
      · exact ⟨_, _, _, rfl,
          (calm.trans (after.calm_called ..)).trans (calm_report _ .debug _ _ (by decide))⟩

/-- The same holds of releasing a block, whether or not it succeeds. -/
theorem deallocate_calm (cached : cache.get? route.backend = some loaded) (type : ElementType)
    (address : Nat) (length : UInt64) (number : Nat) (stats : Stats) (outside : Outside P) :
    ∃ answer stats' after, route.deallocate type address length number stats cache outside =
        (answer, stats', cache, after) ∧
      (loaded.handOut route.path outside).Calm after := by
  obtain ⟨answer, after, reached, calm⟩ := reach_of_cached cached type .dealloc number outside
  unfold deallocate
  rw [reached]
  cases answer with
  | error error => exact ⟨_, _, _, rfl, calm⟩
  | ok entry =>
      exact ⟨_, _, _, rfl,
        (calm.trans (after.calm_called ..)).trans (calm_report _ .debug _ _ (by decide))⟩

end Route

namespace HostMemory

/-- The host opens nothing and warns of nothing when it grants a block. -/
theorem allocate_calm (type : ElementType) (length : UInt64) (stats : Stats)
    (outside : Outside P) : outside.Calm (allocate type length stats outside).2.2 := by
  unfold allocate
  split
  · exact .refl outside
  · split
    · exact .refl outside
    · dsimp only
      split
      · exact outside.calm_state _
      · exact (outside.calm_state _).trans (calm_report _ .debug _ _ (by decide))

/-- Nor does it when it takes a block back. -/
theorem deallocate_calm (type : ElementType) (address : Nat) (length : UInt64) (stats : Stats)
    (outside : Outside P) : outside.Calm (deallocate type address length stats outside).2.2 := by
  unfold deallocate
  split
  · exact .refl outside
  · exact (outside.calm_state _).trans (calm_report _ .debug _ _ (by decide))

end HostMemory

/-- What a dealing with a provider asks a cache for: the library on a route, from the
cache of a number. The host asks for nothing. -/
def Source.inquiry : Source → List (Route × Nat)
  | .host => []
  | .library route cache => [(route, cache)]

namespace World

/-- The warning that an inquiry leads to, if its library is cached under another
path. -/
def complaint? (world : World P) (inquiry : Route × Nat) : Option Event :=
  ((world.caches inquiry.2).get? inquiry.1.backend).bind fun loaded =>
    loaded.complaint? inquiry.1.path

/-- Some inquiries were made that found their libraries: the caches stay, no loader is
asked, and each inquiry that names another path is warned of. -/
structure Heeds (inquiries : List (Route × Nat)) (before after : World P) : Prop where
  caches : after.caches = before.caches
  openings : after.outside.openings = before.outside.openings
  warnings : after.outside.warnings =
    before.outside.warnings ++ inquiries.filterMap before.complaint?

variable {world : World P} {number : Nat}

/-- A change that asks no cache leaves the caches and the warnings alone. -/
theorem Heeds.nil {before after : World P} (caches : after.caches = before.caches)
    (calm : before.outside.Calm after.outside) : before.Heeds [] after :=
  ⟨caches, calm.openings, calm.warnings.trans (List.append_nil _).symm⟩

/-- Inquiries are made one after the other: the second ones find the caches as the first ones
did. -/
theorem Heeds.trans {first second third : World P} {inquiries more : List (Route × Nat)}
    (early : first.Heeds inquiries second) (late : second.Heeds more third) :
    first.Heeds (inquiries ++ more) third where
  caches := late.caches.trans early.caches
  openings := late.openings.trans early.openings
  warnings := by
    have same : second.complaint? = first.complaint? := by
      funext inquiry
      unfold complaint?
      rw [early.caches]
    rw [late.warnings, early.warnings, same, List.filterMap_append, List.append_assoc]

/-- What is done after the inquiries does not matter if it is calm. -/
theorem Heeds.calm {before after later : World P} {inquiries : List (Route × Nat)}
    (heeds : before.Heeds inquiries after) (caches : later.caches = after.caches)
    (calm : after.outside.Calm later.outside) : before.Heeds inquiries later := by
  have both := heeds.trans (Heeds.nil caches calm)
  rwa [List.append_nil] at both

/-- A provider whose library, if it takes one, is cached. -/
def Supplied (world : World P) (number : Nat) : Prop :=
  ∀ route cache, (world.providers number).source = .library route cache →
    ((world.caches cache).get? route.backend).isSome

/-- A dealing that found its library heeds the inquiry. -/
theorem heeds_of_cached {route : Route} {cacheNumber : Nat} {loaded : LoadedLibrary P}
    {stats : Stats} {after : Outside P}
    (source : (world.providers number).source = .library route cacheNumber)
    (cached : (world.caches cacheNumber).get? route.backend = some loaded)
    (calm : (loaded.handOut route.path world.outside).Calm after) :
    world.Heeds (world.providers number).source.inquiry
      (world.charged number stats
        (replace world.caches cacheNumber (world.caches cacheNumber)) after) where
  caches := replace_self ..
  openings := calm.openings.trans (loaded.handOut_openings ..)
  warnings := by
    refine calm.warnings.trans ((loaded.handOut_warnings ..).trans ?_)
    have told : world.complaint? (route, cacheNumber) = loaded.complaint? route.path := by
      unfold complaint?
      rw [cached]
      rfl
    rw [source, Source.inquiry, List.filterMap_cons, List.filterMap_nil, told]
    cases loaded.complaint? route.path <;> rfl

/-- A provider whose library is cached asks for it once when it is asked for a block. -/
theorem Supplied.request (supplied : world.Supplied number) (type : ElementType)
    {length : UInt64} (short : length.toNat < signedLimit) :
    world.Heeds (world.providers number).source.inquiry (world.request number type length).2 := by
  cases source : (world.providers number).source with
  | host =>
      simp only [World.request, source]
      exact .nil rfl (HostMemory.allocate_calm ..)
  | library route cacheNumber =>
      obtain ⟨loaded, cached⟩ := Option.isSome_iff_exists.mp (supplied route cacheNumber source)
      obtain ⟨answer, stats, after, asked, calm⟩ := Route.allocate_of_cached cached type short
        cacheNumber (world.providers number).stats world.outside
      rw [request_of_library source asked, ← source]
      exact heeds_of_cached source cached calm

/-- It asks once when it makes sure that blocks could be had. -/
theorem Supplied.prepare (supplied : world.Supplied number) (type : ElementType) :
    world.Heeds (world.providers number).source.inquiry (world.prepare number type).2 := by
  cases source : (world.providers number).source with
  | host =>
      simp only [World.prepare, source]
      exact .nil rfl (.refl _)
  | library route cacheNumber =>
      obtain ⟨loaded, cached⟩ := Option.isSome_iff_exists.mp (supplied route cacheNumber source)
      obtain ⟨answer, after, asked, calm⟩ :=
        Route.prepare_of_cached cached type cacheNumber world.outside
      rw [prepare_of_library source asked, ← source]
      exact heeds_of_cached source cached calm

/-- It asks once when it is given a block back. -/
theorem Supplied.giveBack (supplied : world.Supplied number) (type : ElementType)
    (address : Nat) (length : UInt64) :
    world.Heeds (world.providers number).source.inquiry
      (world.giveBack number type address length).2 := by
  cases source : (world.providers number).source with
  | host =>
      simp only [World.giveBack, source]
      exact .nil rfl (HostMemory.deallocate_calm ..)
  | library route cacheNumber =>
      obtain ⟨loaded, cached⟩ := Option.isSome_iff_exists.mp (supplied route cacheNumber source)
      obtain ⟨answer, stats, after, asked, calm⟩ := Route.deallocate_calm cached type address length
        cacheNumber (world.providers number).stats world.outside
      rw [giveBack_of_library source asked, ← source]
      exact heeds_of_cached source cached calm

/-- It asks once for every buffer that it is to obtain, with elements or without. -/
theorem Supplied.obtainBuffer (supplied : world.Supplied number) (type : ElementType)
    {length : UInt64} (short : length.toNat < signedLimit) :
    world.Heeds (world.providers number).source.inquiry
      (world.obtainBuffer number type length).2 := by
  unfold World.obtainBuffer
  split
  · have heeds := supplied.prepare type
    rcases asked : world.prepare number type with ⟨error | _, after⟩ <;> rw [asked] at heeds
    · exact heeds
    · exact heeds.calm rfl (.refl _)
  · have heeds := supplied.request type short
    rcases asked : world.request number type length with ⟨error | address, after⟩ <;>
      rw [asked] at heeds
    · exact heeds
    · exact heeds.calm rfl (calm_enter _ _ rfl rfl)

/-- What a request for a buffer asks a cache for. -/
def inquiries (world : World P) (allocator : Allocator) (length : Int64) (backend : Backend) :
    List (Route × Nat) :=
  if length < 0 then []
  else
    match allocator.provider backend with
    | .error _ => []
    | .ok provider => (world.providers provider).source.inquiry

/-- A request asks the cache unless it is turned down before a provider is asked. -/
theorem allocate_heeds {allocator : Allocator} {backend : Backend}
    (supplied : ∀ provider, allocator.provider backend = .ok provider → world.Supplied provider)
    (length : Int64) (type : ElementType) :
    world.Heeds (world.inquiries allocator length backend)
      (world.allocate allocator length type backend).2 := by
  unfold World.allocate inquiries
  split
  · exact .nil rfl (.refl _)
  · cases served : allocator.provider backend with
    | error error => exact .nil rfl (.refl _)
    | ok provider =>
        refine (supplied provider served).obtainBuffer type ?_
        have bounded := Int64.toInt_lt length
        rw [toNat_word, signedLimit]
        omega

/-- What the release of a block asks a cache for. -/
def releaseInquiries (world : World P) (block : Block) : List (Route × Nat) :=
  if block.length = 0 then [] else (world.providers block.provider).source.inquiry

/-- A release asks the cache exactly if the block has elements and is not in host memory. -/
theorem release_heeds {block : Block}
    (supplied : block.length ≠ 0 → world.Supplied block.provider) (number : Nat) :
    world.Heeds (world.releaseInquiries block) (world.release number block).2 := by
  unfold release releaseInquiries
  by_cases none : block.length = 0
  · have empty : block.isEmpty = true := decide_eq_true none
    rw [if_pos none, if_pos empty]
    exact .nil rfl (.refl _)
  · have filled : ¬ block.isEmpty = true := by simpa [Block.isEmpty] using none
    rw [if_neg none, if_neg filled]
    let entry : Entry P :=
      .returned number block.provider block.type block.address block.length
    have entered : world.Heeds [] (world.enter entry) := .nil rfl (calm_enter _ entry rfl rfl)
    have asking : (world.enter entry).Supplied block.provider := supplied none
    have heeds := entered.trans (asking.giveBack block.type block.address block.length)
    rcases asked : (world.enter entry).giveBack block.provider block.type block.address
      block.length with ⟨error | _, after⟩ <;>
      rw [asked] at heeds <;>
      simp only [entry] at asked <;>
      simp only [asked]
    · exact heeds.calm rfl (calm_report _ .error _ _ (by decide))
    · exact heeds

/-- Retiring a block adds to its release only a report, which is no warning. -/
theorem retire_heeds {block : Block}
    (supplied : block.length ≠ 0 → world.Supplied block.provider) (number : Nat) :
    world.Heeds (world.releaseInquiries block) (world.retire number block) := by
  have heeds := release_heeds supplied number
  unfold retire
  rcases released : world.release number block with ⟨outcome, after⟩
  rw [released] at heeds
  dsimp only
  split
  · exact heeds.calm rfl (.refl _)
  · exact heeds.calm rfl (calm_report _ .trace _ _ (by decide))

/-- What dropping a buffer asks a cache for. -/
def dropInquiries (world : World P) (buffer : Nat) : List (Route × Nat) :=
  match world.block? buffer with
  | none => []
  | some block => if block.owners = 1 then world.releaseInquiries block else []

/-- A drop asks the cache only if it retires a block. Then the library is cached, because it
granted the block. -/
theorem Reachable.drop_heeds {caches : Nat → Prop} (reachable : world.Reachable caches)
    (buffer : Nat) : world.Heeds (world.dropInquiries buffer) (world.drop buffer) := by
  unfold dropInquiries block?
  cases held : world.blockNumber? buffer with
  | none =>
      rw [drop_absent held]
      exact .nil rfl (.refl _)
  | some number =>
      obtain ⟨block, present, alive, _⟩ := reachable.owned.alive held
      rw [Option.bind_some, present]
      by_cases last : block.owners = 1
      · -- Who owns the block plays no part in how it is released.
        have supplied (nonempty : block.length ≠ 0) :
            (world.part buffer number).Supplied block.provider := by
          intro route cache source
          obtain ⟨loaded, cached⟩ := (reachable.served present nonempty).stocked route cache source
          exact Option.isSome_iff_exists.mpr ⟨loaded, cached⟩
        have parted : world.Heeds [] (world.part buffer number) := .nil rfl (.refl _)
        have heeds := parted.trans (retire_heeds supplied number)
        rw [drop_last held present (by omega)]
        dsimp only
        rw [if_pos last]
        exact heeds
      · have others (other : Block) (present' : world.blocks[number]? = some other) :
            other.owners - 1 ≠ 0 := by
          cases present.symm.trans present'
          omega
        rw [drop_shared held others]
        dsimp only
        rw [if_neg last]
        exact .nil rfl (.refl _)

/-- What a provider has it keeps, in every later world. -/
theorem Supplied.extends {before after : World P} (supplied : before.Supplied number)
    (extended : before.Extends after) (known : number < before.nextProvider) :
    after.Supplied number := by
  intro route cache source
  rw [extended.source number known] at source
  obtain ⟨loaded, cached⟩ := Option.isSome_iff_exists.mp (supplied route cache source)
  exact Option.isSome_iff_exists.mpr ⟨loaded, extended.kept cache _ _ cached⟩

end World

/-- The step asks no allocator but this one, and allocators stay as they are. -/
def Step.Through (own : Nat) : Step P → Prop
  | .make _ _ | .discard _ => False
  | .allocate number _ _ _ | .allocateNamed number _ _ _ => number = own
  | .drift _ | .clone _ | .drop _ | .write _ _ _ => True

namespace Session

/-- What a step asks caches for. -/
def inquiries (session : Session P) : Step P → List (Route × Nat)
  | .allocate number length _ backend =>
      match session.allocators number with
      | none => []
      | some allocator => session.world.inquiries allocator length backend
  | .allocateNamed number length type backend =>
      match session.allocators number, Backend.parse backend, ElementType.parse type with
      | some allocator, .ok backend, .ok _ => session.world.inquiries allocator length backend
      | _, _, _ => []
  | .drop buffer => session.world.dropInquiries buffer
  | _ => []

/-- What some steps ask caches for, one after the other. -/
def allInquiries (session : Session P) : List (Step P) → List (Route × Nat)
  | [] => []
  | step :: steps => session.inquiries step ++ (session.step step).allInquiries steps

/-- An allocator whose library, if it takes one, is cached. -/
structure Equipped (own : Nat) (session : Session P) : Prop where
  sound : session.Sound fun _ => True
  supplied : ∀ allocator, session.allocators own = some allocator →
    ∀ backend provider, allocator.provider backend = .ok provider →
      session.world.Supplied provider

/-- A step that asks no allocator but an equipped one makes its inquiries, and each finds its
library. -/
theorem Equipped.step_heeds {own : Nat} {session : Session P} (equipped : session.Equipped own)
    {step : Step P} (through : step.Through own) :
    session.world.Heeds (session.inquiries step) (session.step step).world := by
  cases step with
  | make | discard => exact through.elim
  | drift state => exact .nil rfl (session.world.outside.calm_state state)
  | allocate number length type backend =>
      cases through
      dsimp only [Session.step, inquiries]
      cases held : session.allocators own with
      | none => exact .nil rfl (.refl _)
      | some allocator =>
          exact World.allocate_heeds (equipped.supplied allocator held backend) length type
  | allocateNamed number length type backend =>
      cases through
      dsimp only [Session.step, inquiries]
      cases held : session.allocators own with
      | none => exact .nil rfl (.refl _)
      | some allocator =>
          unfold World.allocateNamed
          cases Backend.parse backend with
          | error error => exact .nil rfl (.refl _)
          | ok backend =>
              cases ElementType.parse type with
              | error error => exact .nil rfl (.refl _)
              | ok type =>
                  exact World.allocate_heeds (equipped.supplied allocator held backend) length type
  | clone buffer =>
      dsimp only [Session.step]
      rw [World.clone?_eq]
      cases session.world.blockNumber? buffer <;> exact .nil rfl (.refl _)
  | drop buffer => exact equipped.sound.reachable.drop_heeds buffer
  | write buffer index value =>
      dsimp only [Session.step]
      split
      · exact .nil rfl (.refl _)
      · next written =>
          obtain ⟨number, _, rfl⟩ := World.write?_eq written
          exact .nil rfl (.refl _)

/-- Such a step leaves the allocator equipped. -/
theorem Equipped.step {own : Nat} {session : Session P} (equipped : session.Equipped own)
    {step : Step P} (through : step.Through own) : (session.step step).Equipped own := by
  have allowed : step.Within fun _ => True := by cases step <;> trivial
  refine ⟨equipped.sound.step allowed, ?_⟩
  intro allocator held backend provider served
  rcases allocators_step held with older | ⟨_, _, _, rfl, _⟩
  · exact (equipped.supplied allocator older backend provider served).extends
      (step_follows equipped.sound.known allowed).extends
      ((equipped.sound.known own allocator older).provider served)
  · exact through.elim

/-- Making an allocator asks for nothing. -/
theorem make_heeds (session : Session P) (registry : Registry) (cache : Nat) :
    session.world.Heeds [] (session.step (.make registry cache)).world := by
  change session.world.Heeds [] (session.world.addAllocator registry cache).2
  rcases addAllocator_cases session.world registry cache with
    ⟨_, _, equation⟩ | ⟨_, _, equation⟩ <;>
    rw [equation] <;>
    exact .nil rfl (.refl _)

/-- A new allocator is equipped, if its cache holds the library of the accelerator. -/
theorem Sound.equipped_make {session : Session P} (sound : session.Sound fun _ => True)
    (registry : Registry) {cache : Nat}
    (cached : ((session.world.caches cache).get? .accelerator).isSome) :
    (session.step (.make registry cache)).Equipped session.nextAllocator := by
  refine ⟨sound.step trivial, ?_⟩
  intro allocator held backend provider served route cache' source
  cases (replace_same ..).symm.trans held
  change ((session.world.addAllocator registry cache).2.providers provider).source = _ at source
  rw [(session.make_heeds registry cache).caches]
  rcases addAllocator_serves served with ⟨_, host⟩ | ⟨_, library, backend, reached⟩
  · cases host.symm.trans source
  · cases reached.symm.trans source
    rw [backend]
    exact cached

/-- Over a whole run, the inquiries of all steps are made in order, and each finds its library.
-/
theorem Equipped.run {own : Nat} {session : Session P} (equipped : session.Equipped own)
    (steps : List (Step P)) (through : ∀ step ∈ steps, step.Through own) :
    session.world.Heeds (session.allInquiries steps) (session.run steps).world := by
  induction steps generalizing session with
  | nil => exact .nil rfl (.refl _)
  | cons step steps ih =>
      have first := through step List.mem_cons_self
      exact (equipped.step_heeds first).trans
        (ih (equipped.step first) fun other member => through other (List.mem_cons_of_mem _ member))

end Session

end TypedMemory
