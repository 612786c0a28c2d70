import TypedMemory.Proofs.Session

/-!
# Dealings with providers

What it comes to when a provider is asked for memory, or given memory back. A
dealing leaves all blocks and buffers alone, changes the counters of its own
provider only, and removes no library from a cache. It calls at most one entry
point, and the library of that entry point is cached afterwards.
-/

namespace TypedMemory

variable {P : Platform}

/-- Whether an entry tells of memory: a call of an entry point, a grant or a
return. -/
def Entry.isDealing : Entry P → Bool
  | .reported _ => false
  | .opened _ _ _ _ => false
  | .called _ _ _ => true
  | .granted _ _ _ _ _ => true
  | .returned _ _ _ _ _ => true

namespace Outside

/-- The entries of the journal that tell of memory. -/
def dealings (outside : Outside P) : List (Entry P) := outside.journal.filter Entry.isDealing

@[simp] theorem dealings_enter (outside : Outside P) (entry : Entry P) :
    (outside.enter entry).dealings =
      outside.dealings ++ if entry.isDealing then [entry] else [] := by
  unfold dealings enter
  rw [List.filter_append, List.filter_cons, List.filter_nil]

@[simp] theorem dealings_report (outside : Outside P) (level : Level) (message : String)
    (fields : List (String × FieldValue)) :
    (outside.report level message fields).dealings = outside.dealings := by
  simp [report, Entry.isDealing]

@[simp] theorem dealings_mk (outside : Outside P) (state : P.State) :
    dealings { outside with state } = outside.dealings := rfl

/-- A reading of the journal that passes over reports and openings is a reading of
the dealings. -/
theorem filterMap_journal {α : Type} (outside : Outside P) (read : Entry P → Option α)
    (passes : ∀ entry : Entry P, entry.isDealing = false → read entry = none) :
    outside.journal.filterMap read = outside.dealings.filterMap read := by
  unfold dealings
  rw [List.filterMap_filter]
  congr 1
  funext entry
  cases told : entry.isDealing with
  | true => rfl
  | false => exact passes entry told

/-- A test that passes over reports and openings may count the dealings only. -/
theorem countP_journal (outside : Outside P) (test : Entry P → Bool)
    (passes : ∀ entry : Entry P, entry.isDealing = false → test entry = false) :
    outside.journal.countP test = outside.dealings.countP test := by
  unfold dealings
  rw [List.countP_filter]
  congr 1
  funext entry
  cases told : entry.isDealing with
  | true => exact (Bool.and_true _).symm
  | false => rw [passes entry told, Bool.false_and]

end Outside

namespace Cache

/-- Every library that is cached is still cached later. -/
def Keeps (cache later : Cache P) : Prop :=
  ∀ backend loaded, cache.get? backend = some loaded → later.get? backend = some loaded

theorem Keeps.refl (cache : Cache P) : cache.Keeps cache := fun _ _ held => held

/-- A library that is added for a backend is found unless there was one before. -/
theorem get?_concat (cache : Cache P) (loaded : LoadedLibrary P) (loads : UInt64)
    (backend : Backend) :
    Cache.get? { libraries := cache.libraries ++ [loaded], loads } backend =
      (cache.get? backend).or (if loaded.backend = backend then some loaded else none) := by
  unfold get?
  rw [List.find?_append]
  by_cases same : loaded.backend = backend <;> simp [same]

/-- The second step of a request finds a library, or fails to open one, or opens
one and keeps it. -/
theorem load_cases (number : Nat) (cache : Cache P) (backend : Backend) (path : Path)
    (outside : Outside P) :
    (∃ loaded, cache.get? backend = some loaded ∧
      cache.load number backend path outside = (.ok loaded, cache, loaded.handOut path outside)) ∨
    (cache.get? backend = none ∧ ∃ error state,
      P.openLibrary number path outside.state = (.error error, state) ∧
      cache.load number backend path outside =
        (.error error, cache,
          ({ outside with state }.enter (.opened number backend path false)).report .error
            "failed to load kernels library"
            [("library", .text path.display), ("error", .text error.message)])) ∨
    (cache.get? backend = none ∧ ∃ library state,
      P.openLibrary number path outside.state = (.ok library, state) ∧
      cache.load number backend path outside =
        (.ok ⟨backend, path, library⟩,
          { libraries := cache.libraries ++ [⟨backend, path, library⟩], loads := cache.loads + 1 },
          ({ outside with state }.enter (.opened number backend path true)).report .info
            "loaded kernels library"
            [("backend", .text backend.name), ("library", .text path.display)])) := by
  unfold load
  cases cached : cache.get? backend with
  | some loaded => exact .inl ⟨loaded, rfl, rfl⟩
  | none =>
      rcases opening : P.openLibrary number path outside.state with ⟨error | library, state⟩
      · exact .inr (.inl ⟨rfl, error, state, rfl, rfl⟩)
      · exact .inr (.inr ⟨rfl, library, state, rfl, rfl⟩)

/-- Handing a library out is no dealing. -/
theorem handOut_dealings (loaded : LoadedLibrary P) (path : Path) (outside : Outside P) :
    (loaded.handOut path outside).dealings = outside.dealings := by
  unfold LoadedLibrary.handOut
  split
  · rfl
  · exact outside.dealings_report ..

/-- What a request for a library leaves behind: no dealing, no library lost, and
the library that it answers with. -/
structure Acquired (backend : Backend) (cache : Cache P) (outside : Outside P)
    (answer : Except Error (LoadedLibrary P) × Cache P × Outside P) : Prop where
  dealings : answer.2.2.dealings = outside.dealings
  kept : cache.Keeps answer.2.1
  cached : ∀ loaded, answer.1 = .ok loaded → answer.2.1.get? backend = some loaded

/-- A second step of a request, which may open the library, is no dealing either. -/
theorem load_acquired (number : Nat) (cache : Cache P) (backend : Backend) (path : Path)
    (outside : Outside P) :
    Acquired backend cache outside (cache.load number backend path outside) := by
  rcases load_cases number cache backend path outside with
    ⟨loaded, cached, equation⟩ | ⟨_, error, state, _, equation⟩ |
      ⟨absent, library, state, _, equation⟩ <;> rw [equation]
  · refine ⟨handOut_dealings loaded path outside, .refl cache, ?_⟩
    rintro _ ⟨⟩
    exact cached
  · refine ⟨?_, .refl cache, nofun⟩
    simp [Entry.isDealing]
  · refine ⟨by simp [Entry.isDealing], ?_, ?_⟩
    · intro other loaded held
      rw [get?_concat, held, Option.some_or]
    · rintro _ ⟨⟩
      simp [get?_concat, absent]

/-- A whole request for a library opens it or finds it, and loses none. -/
theorem acquire_acquired (number : Nat) (cache : Cache P) (descriptor : Descriptor)
    (outside : Outside P) :
    Acquired descriptor.backend cache outside (cache.acquire number descriptor outside) := by
  unfold acquire look
  cases descriptor.access with
  | direct => exact ⟨rfl, .refl cache, nofun⟩
  | library path stem =>
      cases cached : cache.get? descriptor.backend with
      | none => exact load_acquired number cache descriptor.backend path outside
      | some loaded =>
          refine ⟨handOut_dealings loaded path outside, .refl cache, ?_⟩
          rintro _ ⟨⟩
          exact cached

end Cache

/-- A library that is cached for a backend, and in which a name was found. -/
structure Cache.Offers (cache : Cache P) (backend : Backend) (loaded : LoadedLibrary P)
    (name : String) : Prop where
  cached : cache.get? backend = some loaded
  found : ∃ state routine, P.lookUp loaded.library name state = .found routine

namespace LoadedLibrary

/-- Looking a name up is no dealing. -/
theorem resolve_dealings (loaded : LoadedLibrary P) (name : String) (outside : Outside P) :
    (loaded.resolve name outside).2.dealings = outside.dealings := by
  unfold resolve
  split
  · rfl
  · rfl
  · exact outside.dealings_report ..

/-- An entry point that is found has the name that was looked up, and the routine that the name
stands for. -/
theorem resolve_ok (loaded : LoadedLibrary P) (name : String) (outside : Outside P)
    {entry : EntryPoint P} (answered : (loaded.resolve name outside).1 = .ok entry) :
    entry.loaded = loaded ∧ entry.name = name ∧
      P.lookUp loaded.library name outside.state = .found entry.routine := by
  unfold resolve at answered
  split at answered
  · cases answered
  · cases answered
  · next routine found =>
      cases answered
      exact ⟨rfl, rfl, found⟩

end LoadedLibrary

namespace Route

/-- What reaching for an entry point leaves behind: no dealing, no library lost,
and the library of the entry point that it answers with. -/
structure Reached (route : Route) (name : String) (cache : Cache P) (outside : Outside P)
    (answer : Except Error (EntryPoint P) × Cache P × Outside P) : Prop where
  dealings : answer.2.2.dealings = outside.dealings
  kept : cache.Keeps answer.2.1
  named : ∀ entry, answer.1 = .ok entry → entry.name = name
  offered : ∀ entry, answer.1 = .ok entry →
    answer.2.1.Offers route.backend entry.loaded name

/-- Reaching for an entry point calls nothing. -/
theorem reach_reached (route : Route) (type : ElementType) (operation : Operation) (number : Nat)
    (cache : Cache P) (outside : Outside P) :
    Reached route (route.symbol type operation) cache outside
      (route.reach type operation number cache outside) := by
  have acquired := Cache.acquire_acquired number cache route.descriptor outside
  unfold reach
  rcases asked : cache.acquire number route.descriptor outside with ⟨error | loaded, after, later⟩
  · rw [asked] at acquired
    exact ⟨acquired.dealings, acquired.kept, nofun, nofun⟩
  · rw [asked] at acquired
    refine ⟨(loaded.resolve_dealings _ later).trans acquired.dealings, acquired.kept, ?_, ?_⟩
    · intro entry answered
      exact (loaded.resolve_ok _ later answered).2.1
    · intro entry answered
      obtain ⟨rfl, _, found⟩ := loaded.resolve_ok _ later answered
      exact ⟨acquired.cached _ rfl, later.state, entry.routine, found⟩

/-- Making sure that blocks could be had calls nothing. -/
theorem prepare_dealings (route : Route) (type : ElementType) (number : Nat) (cache : Cache P)
    (outside : Outside P) :
    (route.prepare type number cache outside).2.2.dealings = outside.dealings ∧
      cache.Keeps (route.prepare type number cache outside).2.1 := by
  have acquired := Cache.acquire_acquired number cache route.descriptor outside
  unfold prepare
  rcases asked : cache.acquire number route.descriptor outside with ⟨error | loaded, after, later⟩
  · rw [asked] at acquired
    exact ⟨acquired.dealings, acquired.kept⟩
  · rw [asked] at acquired
    have first := loaded.resolve_dealings (route.symbol type .alloc) later
    rcases looked : loaded.resolve (route.symbol type .alloc) later with ⟨error | entry, outside₁⟩
    · rw [looked] at first
      simp only [looked]
      exact ⟨first.trans acquired.dealings, acquired.kept⟩
    · rw [looked] at first
      have second := loaded.resolve_dealings (route.symbol type .dealloc) outside₁
      simp only [looked]
      rcases again : loaded.resolve (route.symbol type .dealloc) outside₁ with
        ⟨error | entry, outside₂⟩ <;>
        rw [again] at second <;>
        exact ⟨second.trans (first.trans acquired.dealings), acquired.kept⟩

/-- An entry point is not reached, or is called and has no memory, or is called and
grants a block, whose size is counted. -/
theorem allocate_cases (route : Route) (type : ElementType) (length : UInt64) (number : Nat)
    (stats : Stats) (cache : Cache P) (outside : Outside P) :
    (∃ error later after, after.dealings = outside.dealings ∧ cache.Keeps later ∧
      route.allocate type length number stats cache outside =
        (.error error, stats, later, after)) ∨
    (∃ loaded address later after, later.Offers route.backend loaded (route.symbol type .alloc) ∧
      cache.Keeps later ∧ after.dealings = outside.dealings ++
        [.called loaded (route.symbol type .alloc) (.alloc (Int64.ofNat length.toNat) address)] ∧
      ((address = 0 ∧ ∃ error, route.allocate type length number stats cache outside =
          (.error error, stats, later, after)) ∨
        (address ≠ 0 ∧ route.allocate type length number stats cache outside =
          (.ok address, stats.recordAllocation (charge type length), later, after)))) := by
  have reached := route.reach_reached type .alloc number cache outside
  unfold allocate
  split
  · exact .inl ⟨_, cache, outside, rfl, .refl cache, rfl⟩
  · rcases asked : route.reach type .alloc number cache outside with ⟨error | entry, later, after⟩
    · rw [asked] at reached
      exact .inl ⟨error, later, after, reached.dealings, reached.kept, rfl⟩
    · rw [asked] at reached
      have called := congrArg (· ++ [Entry.called entry.loaded (route.symbol type .alloc)
        (.alloc (Int64.ofNat length.toNat)
          (entry.callAlloc (Int64.ofNat length.toNat) after).1)]) reached.dealings
      have named := reached.named entry rfl
      by_cases null : (entry.callAlloc (Int64.ofNat length.toNat) after).1 = 0
      · refine .inr ⟨entry.loaded, _, later, _, reached.offered entry rfl, reached.kept, ?_,
          .inl ⟨null, _, if_pos null⟩⟩
        rw [← called, ← named]
        exact Outside.dealings_enter _ _
      · refine .inr ⟨entry.loaded, _, later, _, reached.offered entry rfl, reached.kept, ?_,
          .inr ⟨null, if_neg null⟩⟩
        rw [← called, ← named, Outside.dealings_report]
        exact Outside.dealings_enter _ _

/-- An entry point is not reached, which is counted as a failure, or is called and
takes a block back, whose size is counted. -/
theorem deallocate_cases (route : Route) (type : ElementType) (address : Nat) (length : UInt64)
    (number : Nat) (stats : Stats) (cache : Cache P) (outside : Outside P) :
    (∃ error later after, after.dealings = outside.dealings ∧ cache.Keeps later ∧
      route.deallocate type address length number stats cache outside =
        (.error error, stats.recordFailedRelease, later, after)) ∨
    (∃ loaded later after, later.Offers route.backend loaded (route.symbol type .dealloc) ∧
      cache.Keeps later ∧ after.dealings = outside.dealings ++
        [.called loaded (route.symbol type .dealloc) (.dealloc address)] ∧
      route.deallocate type address length number stats cache outside =
        (.ok (), stats.recordRelease (charge type length), later, after)) := by
  have reached := route.reach_reached type .dealloc number cache outside
  unfold deallocate
  rcases asked : route.reach type .dealloc number cache outside with ⟨error | entry, later, after⟩
  · rw [asked] at reached
    exact .inl ⟨error, later, after, reached.dealings, reached.kept, rfl⟩
  · rw [asked] at reached
    refine .inr ⟨entry.loaded, later, _, reached.offered entry rfl, reached.kept, ?_, rfl⟩
    rw [Outside.dealings_report, ← reached.dealings, ← reached.named entry rfl]
    exact Outside.dealings_enter _ _

end Route

/-- Elements of every type take room. -/
theorem ElementType.size_ne_zero (type : ElementType) : type.size ≠ 0 := by
  cases type <;> decide

namespace HostMemory

/-- The layout of a block is as large as its elements, which is less than a word counts. -/
theorem layout_ok {type : ElementType} {length : UInt64} {bytes : Nat}
    (sized : layout type length = .ok bytes) :
    bytes = length.toNat * type.size ∧ bytes < wordLimit := by
  simp only [layout] at sized
  split at sized
  · cases sized
  · next bounded =>
      split at sized
      · cases sized
      · cases sized
        exact ⟨rfl, Nat.lt_of_not_le bounded⟩

/-- A block with elements has bytes. -/
theorem layout_ne_zero {type : ElementType} {length : UInt64} (nonempty : length ≠ 0)
    {bytes : Nat} (sized : layout type length = .ok bytes) : bytes ≠ 0 := by
  obtain ⟨rfl, _⟩ := layout_ok sized
  have some_elements : length.toNat ≠ 0 := fun none => nonempty (UInt64.toNat_inj.mp none)
  exact Nat.mul_ne_zero some_elements type.size_ne_zero

/-- A host block is charged with its whole size. -/
theorem charge_of_layout {type : ElementType} {length : UInt64} {bytes : Nat}
    (sized : layout type length = .ok bytes) : Route.charge type length = bytes := by
  obtain ⟨rfl, bounded⟩ := layout_ok sized
  exact Nat.min_eq_left (Nat.le_sub_one_of_lt bounded)

/-- The host refuses a block, or grants it and counts its size. -/
theorem allocate_cases (type : ElementType) (length : UInt64) (stats : Stats)
    (outside : Outside P) :
    (∃ error after, allocate type length stats outside = (.error error, stats, after) ∧
      after.dealings = outside.dealings) ∨
    (∃ bytes address after, layout type length = .ok bytes ∧
      allocate type length stats outside =
        (.ok address, stats.recordAllocation (Route.charge type length), after) ∧
      after.dealings = outside.dealings) := by
  unfold allocate
  cases sized : layout type length with
  | error error => exact .inl ⟨error, outside, rfl, rfl⟩
  | ok bytes =>
      rw [charge_of_layout sized]
      by_cases none : bytes = 0
      · subst none
        exact .inr ⟨0, _, outside, rfl, rfl, rfl⟩
      · simp only [none, ↓reduceIte]
        split
        · exact .inl ⟨_, _, rfl, outside.dealings_mk _⟩
        · exact .inr ⟨bytes, _, _, rfl, rfl, Outside.dealings_report ..⟩

/-- The host takes a block back and counts its size, unless it has no size. -/
theorem deallocate_cases (type : ElementType) (address : Nat) (length : UInt64) (stats : Stats)
    (outside : Outside P) :
    (∃ refusal, layout type length = .error refusal ∧
      deallocate type address length stats outside = (.error refusal, stats, outside)) ∨
    (∃ after, deallocate type address length stats outside =
        (.ok (), stats.recordRelease (Route.charge type length), after) ∧
      after.dealings = outside.dealings) := by
  unfold deallocate
  cases sized : layout type length with
  | error refusal => exact .inl ⟨refusal, rfl, rfl⟩
  | ok bytes =>
      rw [charge_of_layout sized]
      exact .inr ⟨_, rfl, Outside.dealings_report ..⟩

end HostMemory

namespace World

/-- What a dealing with the provider of a number leaves alone: blocks, buffers,
sources, the counters of other providers, and the libraries that are cached. -/
structure Touches (number : Nat) (before after : World P) : Prop where
  blocks : after.blocks = before.blocks
  buffers : after.buffers = before.buffers
  nextBuffer : after.nextBuffer = before.nextBuffer
  nextProvider : after.nextProvider = before.nextProvider
  source : ∀ other, (after.providers other).source = (before.providers other).source
  stats : ∀ other, other ≠ number →
    (after.providers other).stats = (before.providers other).stats
  kept : ∀ cache, (before.caches cache).Keeps (after.caches cache)

/-- An entry point that a provider finds in its cached library. -/
structure Offers (world : World P) (number : Nat) (type : ElementType) (operation : Operation)
    (loaded : LoadedLibrary P) (symbol : String) (route : Route) (cache : Nat) : Prop where
  source : (world.providers number).source = .library route cache
  symbol_eq : symbol = route.symbol type operation
  offered : (world.caches cache).Offers route.backend loaded symbol

/-- What asking a provider for a block comes to. -/
inductive Requested (world : World P) (number : Nat) (type : ElementType) (length : UInt64) :
    Except Error Nat → World P → Prop
  /-- Nothing was called. -/
  | refused {error : Error} {after : World P}
      (stats : (after.providers number).stats = (world.providers number).stats)
      (dealings : after.outside.dealings = world.outside.dealings) :
      Requested world number type length (.error error) after
  /-- An entry point was called and had no memory. -/
  | barren {error : Error} {after : World P} {loaded : LoadedLibrary P} {symbol : String}
      {route : Route} {cache : Nat}
      (offers : after.Offers number type .alloc loaded symbol route cache)
      (stats : (after.providers number).stats = (world.providers number).stats)
      (dealings : after.outside.dealings = world.outside.dealings ++
        [.called loaded symbol (.alloc (Int64.ofNat length.toNat) 0)]) :
      Requested world number type length (.error error) after
  /-- The host granted the block. -/
  | hosted {address bytes : Nat} {after : World P}
      (source : (world.providers number).source = .host)
      (sized : HostMemory.layout type length = .ok bytes)
      (stats : (after.providers number).stats =
        (world.providers number).stats.recordAllocation (Route.charge type length))
      (dealings : after.outside.dealings = world.outside.dealings) :
      Requested world number type length (.ok address) after
  /-- An entry point was called and granted the block. -/
  | fetched {address : Nat} {after : World P} {loaded : LoadedLibrary P} {symbol : String}
      {route : Route} {cache : Nat} (nonzero : address ≠ 0)
      (offers : after.Offers number type .alloc loaded symbol route cache)
      (stats : (after.providers number).stats =
        (world.providers number).stats.recordAllocation (Route.charge type length))
      (dealings : after.outside.dealings = world.outside.dealings ++
        [.called loaded symbol (.alloc (Int64.ofNat length.toNat) address)]) :
      Requested world number type length (.ok address) after

/-- Nothing but calls is put on record by a request. -/
theorem Requested.calls {world after : World P} {number : Nat} {type : ElementType}
    {length : UInt64} {answer : Except Error Nat}
    (requested : world.Requested number type length answer after) :
    ∃ made, after.outside.dealings = world.outside.dealings ++ made ∧
      ∀ entry ∈ made, ∃ loaded symbol call, entry = .called loaded symbol call := by
  cases requested with
  | refused _ dealings | hosted _ _ _ dealings =>
      exact ⟨[], by rw [dealings, List.append_nil], nofun⟩
  | barren _ _ dealings | fetched _ _ _ dealings =>
      exact ⟨_, dealings, fun _ member => ⟨_, _, _, List.mem_singleton.mp member⟩⟩

/-- What giving a block back to a provider comes to. -/
inductive Returned (world : World P) (number : Nat) (type : ElementType) (address : Nat)
    (length : UInt64) : Except Error Unit → World P → Prop
  /-- The host does not know a block of this size. -/
  | unsized {error refusal : Error} {after : World P}
      (source : (world.providers number).source = .host)
      (sized : HostMemory.layout type length = .error refusal)
      (dealings : after.outside.dealings = world.outside.dealings) :
      Returned world number type address length (.error error) after
  /-- The entry point was not reached. -/
  | unreached {error : Error} {after : World P} {route : Route} {cache : Nat}
      (source : (world.providers number).source = .library route cache)
      (stats : (after.providers number).stats = (world.providers number).stats.recordFailedRelease)
      (dealings : after.outside.dealings = world.outside.dealings) :
      Returned world number type address length (.error error) after
  /-- The host took the block back. -/
  | hosted {after : World P} (source : (world.providers number).source = .host)
      (stats : (after.providers number).stats =
        (world.providers number).stats.recordRelease (Route.charge type length))
      (dealings : after.outside.dealings = world.outside.dealings) :
      Returned world number type address length (.ok ()) after
  /-- An entry point was called and took the block back. -/
  | fetched {after : World P} {loaded : LoadedLibrary P} {symbol : String} {route : Route}
      {cache : Nat} (offers : after.Offers number type .dealloc loaded symbol route cache)
      (stats : (after.providers number).stats =
        (world.providers number).stats.recordRelease (Route.charge type length))
      (dealings : after.outside.dealings = world.outside.dealings ++
        [.called loaded symbol (.dealloc address)]) :
      Returned world number type address length (.ok ()) after

/-- Nothing but calls is put on record by a return. -/
theorem Returned.calls {world after : World P} {number address : Nat} {type : ElementType}
    {length : UInt64} {answer : Except Error Unit}
    (returned : world.Returned number type address length answer after) :
    ∃ made, after.outside.dealings = world.outside.dealings ++ made ∧
      ∀ entry ∈ made, ∃ loaded symbol call, entry = .called loaded symbol call := by
  cases returned with
  | unsized _ _ dealings | unreached _ _ dealings | hosted _ _ dealings =>
      exact ⟨[], by rw [dealings, List.append_nil], nofun⟩
  | fetched _ _ dealings =>
      exact ⟨_, dealings, fun _ member => ⟨_, _, _, List.mem_singleton.mp member⟩⟩

/-- A dealing with the host changes the counters of its provider and what lies outside. -/
theorem touches_host (world : World P) (number : Nat) (stats : Stats) (outside : Outside P) :
    world.Touches number { world with
      outside, providers := replace world.providers number { world.providers number with stats } }
    where
  blocks := rfl
  buffers := rfl
  nextBuffer := rfl
  nextProvider := rfl
  source other := by by_cases same : other = number <;> simp [replace, same]
  stats other different := by simp [replace, different]
  kept _ := .refl _

/-- A dealing with a library changes the counters of its provider, one cache and what lies
outside. -/
theorem touches_library (world : World P) (number cacheNumber : Nat) (provider : Provider)
    (cache : Cache P) (outside : Outside P)
    (source : provider.source = (world.providers number).source)
    (kept : (world.caches cacheNumber).Keeps cache) :
    world.Touches number { world with
      outside
      caches := replace world.caches cacheNumber cache
      providers := replace world.providers number provider } where
  blocks := rfl
  buffers := rfl
  nextBuffer := rfl
  nextProvider := rfl
  source other := by by_cases same : other = number <;> simp [replace, same, source]
  stats other different := by simp [replace, different]
  kept other backend loaded held := by
    by_cases same : other = cacheNumber
    · subst other
      simpa using kept backend loaded held
    · simpa [replace, same] using held

/-- An entry point that the cache offers after a dealing is offered to the provider that dealt.
-/
theorem offers_library {world : World P} {number cacheNumber : Nat} {type : ElementType}
    {operation : Operation} {loaded : LoadedLibrary P} {route : Route} {cache : Cache P}
    (stats : Stats) (outside : Outside P)
    (source : (world.providers number).source = .library route cacheNumber)
    (offers : cache.Offers route.backend loaded (route.symbol type operation)) :
    Offers { world with
      outside
      caches := replace world.caches cacheNumber cache
      providers := replace world.providers number { world.providers number with stats } }
      number type operation loaded (route.symbol type operation) route cacheNumber where
  source := by simpa using source
  symbol_eq := rfl
  offered := by simpa using offers

/-- Making sure that blocks could be had touches the cache of the provider and nothing else that
blocks depend on. -/
theorem prepare_touches (world : World P) (number : Nat) (type : ElementType) :
    world.Touches number (world.prepare number type).2 ∧
      ((world.prepare number type).2.providers number).stats = (world.providers number).stats ∧
      (world.prepare number type).2.outside.dealings = world.outside.dealings := by
  unfold prepare
  cases source : (world.providers number).source with
  | host => exact ⟨⟨rfl, rfl, rfl, rfl, fun _ => rfl, fun _ _ => rfl, fun _ => .refl _⟩,
      rfl, rfl⟩
  | library route cacheNumber =>
      obtain ⟨dealings, kept⟩ :=
        route.prepare_dealings type cacheNumber (world.caches cacheNumber) world.outside
      refine ⟨⟨rfl, rfl, rfl, rfl, fun _ => rfl, fun _ _ => rfl, ?_⟩, rfl, dealings⟩
      intro other backend loaded held
      by_cases same : other = cacheNumber
      · subst other
        simpa using kept backend loaded held
      · simpa [replace, same] using held

/-- A request comes to one of four things: refused without a call, called in vain, granted by
the host, or granted by a library. -/
theorem request_requested (world : World P) (number : Nat) (type : ElementType)
    (length : UInt64) :
    world.Touches number (world.request number type length).2 ∧
      world.Requested number type length (world.request number type length).1
        (world.request number type length).2 := by
  dsimp only [request]
  split
  · next source =>
      rcases HostMemory.allocate_cases type length (world.providers number).stats world.outside
        with ⟨error, after, equation, dealings⟩ | ⟨bytes, address, after, sized, equation, dealings⟩
      · simp only [equation]
        exact ⟨touches_host .., .refused (congrArg Provider.stats (replace_same ..)) dealings⟩
      · simp only [equation]
        exact ⟨touches_host ..,
          .hosted source sized (congrArg Provider.stats (replace_same ..)) dealings⟩
  · next route cacheNumber source =>
      rcases route.allocate_cases type length cacheNumber (world.providers number).stats
        (world.caches cacheNumber) world.outside
        with ⟨error, later, after, dealings, kept, equation⟩ |
          ⟨loaded, address, later, after, offers, kept, dealings,
            ⟨null, error, equation⟩ | ⟨nonzero, equation⟩⟩
      · simp only [equation]
        exact ⟨touches_library _ _ _ _ _ _ rfl kept,
          .refused (congrArg Provider.stats (replace_same ..)) dealings⟩
      · subst null
        simp only [equation]
        exact ⟨touches_library _ _ _ _ _ _ rfl kept,
          .barren (offers_library _ _ source offers)
            (congrArg Provider.stats (replace_same ..)) dealings⟩
      · simp only [equation]
        exact ⟨touches_library _ _ _ _ _ _ rfl kept,
          .fetched nonzero (offers_library _ _ source offers)
            (congrArg Provider.stats (replace_same ..)) dealings⟩

/-- A return comes to one of four things: the host knows no such size, the entry point is not
reached, the host takes the block, or a library does. -/
theorem giveBack_returned (world : World P) (number : Nat) (type : ElementType) (address : Nat)
    (length : UInt64) :
    world.Touches number (world.giveBack number type address length).2 ∧
      world.Returned number type address length (world.giveBack number type address length).1
        (world.giveBack number type address length).2 := by
  dsimp only [giveBack]
  split
  · next source =>
      rcases HostMemory.deallocate_cases type address length (world.providers number).stats
        world.outside with ⟨refusal, sized, equation⟩ | ⟨after, equation, dealings⟩
      · simp only [equation]
        exact ⟨touches_host .., .unsized source sized rfl⟩
      · simp only [equation]
        exact ⟨touches_host .., .hosted source (congrArg Provider.stats (replace_same ..)) dealings⟩
  · next route cacheNumber source =>
      rcases route.deallocate_cases type address length cacheNumber
        (world.providers number).stats (world.caches cacheNumber) world.outside
        with ⟨error, later, after, dealings, kept, equation⟩ |
          ⟨loaded, later, after, offers, kept, dealings, equation⟩
      · simp only [equation]
        exact ⟨touches_library _ _ _ _ _ _ rfl kept,
          .unreached source (congrArg Provider.stats (replace_same ..)) dealings⟩
      · simp only [equation]
        exact ⟨touches_library _ _ _ _ _ _ rfl kept,
          .fetched (offers_library _ _ source offers)
            (congrArg Provider.stats (replace_same ..)) dealings⟩

end World

end TypedMemory
