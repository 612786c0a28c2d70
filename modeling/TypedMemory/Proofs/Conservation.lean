import TypedMemory.Proofs.Deeds
import TypedMemory.Proofs.Effect
import TypedMemory.Proofs.SymbolName
import TypedMemory.Simulation.Machine

/-!
# Conservation of accelerator memory

Memory that an entry point gave at an address was taken back by the matching entry
point, or is held by a live block, or was leaked. This is counted for each stem,
element type and address apart, so it does not matter that addresses are given out
again: names of entry points tell stems and types apart. If all allocators share a
cache, all entry points come from the one library that is cached there. The law is
proved for the calls in the journal (`World.Conserved`) and then holds of the calls
that the platform received, because the journal is true (`Session.run_conserves`).
-/

namespace TypedMemory

variable {P : Platform}

/-- The stem of the entry points that a source calls, if it calls any. -/
def Source.stem? : Source → Option String
  | .host => none
  | .library route _ => some route.stem

/-- What was asked of the entry point in a call. -/
def Call.operation : Call → Operation
  | .alloc _ _ => .alloc
  | .dealloc _ => .dealloc

namespace Entry

/-- Whether an entry is a call of an entry point that gave this address. -/
def isAllocAt (symbol : String) (address : Nat) : Entry P → Bool
  | .called _ name (.alloc _ given) => name = symbol ∧ given = address
  | _ => false

/-- Whether an entry is a call of an entry point that took this address back. -/
def isDeallocAt (symbol : String) (address : Nat) : Entry P → Bool
  | .called _ name (.dealloc given) => name = symbol ∧ given = address
  | _ => false

end Entry

namespace Deed

/-- Whether a deed is a call of an entry point that gives this address. -/
def isAllocAt (symbol : String) (address : Nat) : Deed P → Bool
  | .called _ name (.alloc _ given) => name = symbol ∧ given = address
  | _ => false

/-- Whether a deed is a call of an entry point that takes this address back. -/
def isDeallocAt (symbol : String) (address : Nat) : Deed P → Bool
  | .called _ name (.dealloc given) => name = symbol ∧ given = address
  | _ => false

end Deed

namespace World

variable {caches : Nat → Prop}

/-- How many times an entry point gave an address. -/
def allocCalls (world : World P) (symbol : String) (address : Nat) : Nat :=
  world.outside.journal.countP (Entry.isAllocAt symbol address)

/-- How many times an entry point took an address back. -/
def deallocCalls (world : World P) (symbol : String) (address : Nat) : Nat :=
  world.outside.journal.countP (Entry.isDeallocAt symbol address)

/-- Calls that obtained can be counted in the dealings. -/
theorem allocCalls_eq (world : World P) (symbol : String) (address : Nat) :
    world.allocCalls symbol address =
      world.outside.dealings.countP (Entry.isAllocAt symbol address) := by
  apply Outside.countP_journal
  intro entry other
  cases entry with
  | called => cases other
  | _ => rfl

/-- Calls that released can be counted in the dealings. -/
theorem deallocCalls_eq (world : World P) (symbol : String) (address : Nat) :
    world.deallocCalls symbol address =
      world.outside.dealings.countP (Entry.isDeallocAt symbol address) := by
  apply Outside.countP_journal
  intro entry other
  cases entry with
  | called => cases other
  | _ => rfl

/-- Memory at an address that was obtained for a type under a stem. -/
def Under (world : World P) (stem : String) (type : ElementType) (address : Nat)
    (holding : Holding) : Prop :=
  (world.providers holding.provider).source.stem? = some stem ∧ holding.type = type ∧
    holding.address = address

instance (world : World P) (stem : String) (type : ElementType) (address : Nat) :
    DecidablePred (world.Under stem type address) :=
  fun _ => inferInstanceAs (Decidable (_ ∧ _ ∧ _))

/-- Whether a block holds memory at an address, obtained for a type under a stem. -/
def isUnder (world : World P) (stem : String) (type : ElementType) (address : Nat)
    (block : Block) : Bool :=
  block.isEmpty = false ∧ world.Under stem type address block.holding

/-- An entry point has the name for a stem and a type exactly if its provider asks
under that stem for that type. -/
theorem Offers.symbol_iff {world : World P} {number cache : Nat} {type : ElementType}
    {operation : Operation} {loaded : LoadedLibrary P} {symbol : String} {route : Route}
    (offers : world.Offers number type operation loaded symbol route cache) (stem : String)
    (type' : ElementType) (address address' : Nat) (length : UInt64) :
    symbol = symbolName stem type' operation ∧ address = address' ↔
      world.Under stem type' address' ⟨number, type, address, length⟩ := by
  unfold Under
  rw [offers.symbol_eq, offers.source]
  constructor
  · rintro ⟨same, rfl⟩
    obtain ⟨rfl, rfl, _⟩ := symbolName_inj same
    exact ⟨rfl, rfl, rfl⟩
  · rintro ⟨same, rfl, rfl⟩
    cases same
    exact ⟨rfl, rfl⟩

/-- Calls and blocks agree: every address that was given belongs to a block, and
every address that was taken back belongs to a block that was released. -/
structure Conserved (world : World P) : Prop where
  obtained : ∀ stem type address, address ≠ 0 →
    world.outside.dealings.countP (Entry.isAllocAt (symbolName stem type .alloc) address) =
      world.tally fun holding _ => if world.Under stem type address holding then 1 else 0
  released : ∀ stem type address,
    world.outside.dealings.countP (Entry.isDeallocAt (symbolName stem type .dealloc) address) =
      world.tally fun holding outcome =>
        if world.Under stem type address holding ∧ outcome = some .freed then 1 else 0

/-- In a fresh world nothing was called. -/
theorem conserved_fresh (state : P.State) : (fresh state : World P).Conserved where
  obtained _ _ _ _ := rfl
  released _ _ _ := rfl

/-- Which stem memory was obtained under depends on the source of its provider only. -/
theorem under_congr {before after : World P} {holding : Holding}
    (source : (after.providers holding.provider).source =
      (before.providers holding.provider).source)
    (stem : String) (type : ElementType) (address : Nat) :
    after.Under stem type address holding ↔ before.Under stem type address holding := by
  unfold Under
  rw [source]

/-- The host calls no entry points. -/
theorem not_under_of_host {world : World P} {holding : Holding}
    (host : (world.providers holding.provider).source = .host) (stem : String)
    (type : ElementType) (address : Nat) : ¬ world.Under stem type address holding := by
  rintro ⟨under, _⟩
  rw [host] at under
  cases under

/-- An address that was granted was given by the entry point of its own stem and
type, or by the host. -/
theorem Requested.obtained {world after : World P} {holding : Holding}
    (requested : world.Requested holding.provider holding.type holding.length
      (.ok holding.address) after)
    (source : (after.providers holding.provider).source =
      (world.providers holding.provider).source)
    (stem : String) (type : ElementType) (address : Nat) :
    after.outside.dealings.countP (Entry.isAllocAt (symbolName stem type .alloc) address) =
      world.outside.dealings.countP (Entry.isAllocAt (symbolName stem type .alloc) address) +
        if world.Under stem type address holding then 1 else 0 := by
  cases requested with
  | hosted host _ _ dealings =>
      rw [dealings, if_neg (not_under_of_host host stem type address), Nat.add_zero]
  | fetched _ offers _ dealings =>
      have called := offers.symbol_iff stem type holding.address address holding.length
      rw [dealings, List.countP_append, List.countP_singleton]
      simp only [Entry.isAllocAt, decide_eq_true_eq, called, ← under_congr source]

/-- A block that was given back was taken by the entry point of its own stem and
type, or by the host, or by nobody. -/
theorem Returned.released {world after : World P} {holding : Holding}
    {answer : Except Error Unit}
    (returned : world.Returned holding.provider holding.type holding.address holding.length
      answer after)
    (source : (after.providers holding.provider).source =
      (world.providers holding.provider).source)
    (stem : String) (type : ElementType) (address : Nat) :
    after.outside.dealings.countP (Entry.isDeallocAt (symbolName stem type .dealloc) address) =
      world.outside.dealings.countP (Entry.isDeallocAt (symbolName stem type .dealloc) address) +
        if world.Under stem type address holding ∧ some (outcomeOf answer) = some .freed
        then 1 else 0 := by
  cases returned with
  | unsized _ _ dealings | unreached _ _ dealings =>
      rw [dealings]
      simp only [outcomeOf, reduceCtorEq, Option.some.injEq, and_false, ↓reduceIte, Nat.add_zero]
  | hosted host _ dealings =>
      have none := not_under_of_host host stem type address
      rw [dealings, if_neg fun both => none both.1, Nat.add_zero]
  | fetched offers _ dealings =>
      have called := offers.symbol_iff stem type holding.address address holding.length
      rw [dealings, List.countP_append, List.countP_singleton]
      simp only [Entry.isDeallocAt, decide_eq_true_eq, outcomeOf, and_true, called,
        ← under_congr source]

/-- A request takes nothing back. -/
theorem Requested.countP_isDeallocAt {world after : World P} {number : Nat} {type : ElementType}
    {length : UInt64} {answer : Except Error Nat}
    (requested : world.Requested number type length answer after) (symbol : String)
    (address : Nat) :
    after.outside.dealings.countP (Entry.isDeallocAt symbol address) =
      world.outside.dealings.countP (Entry.isDeallocAt symbol address) := by
  cases requested with
  | refused _ dealings | hosted _ _ _ dealings => rw [dealings]
  | barren _ _ dealings | fetched _ _ _ dealings =>
      rw [dealings, List.countP_append]
      rfl

/-- A return obtains nothing. -/
theorem Returned.countP_isAllocAt {world after : World P} {number address : Nat}
    {type : ElementType} {length : UInt64} {answer : Except Error Unit}
    (returned : world.Returned number type address length answer after) (symbol : String)
    (given : Nat) :
    after.outside.dealings.countP (Entry.isAllocAt symbol given) =
      world.outside.dealings.countP (Entry.isAllocAt symbol given) := by
  cases returned with
  | unsized _ _ dealings | unreached _ _ dealings | hosted _ _ dealings => rw [dealings]
  | fetched _ _ dealings =>
      rw [dealings, List.countP_append]
      rfl

/-- Whatever is done, the calls that gave an address are as many as the blocks that ever had it.
A grant adds one of each; a call that gave no memory gave the address zero. -/
theorem Effect.obtained {before after : World P} (effect : Effect caches before after)
    (provided : before.Provided) (conserved : before.Conserved) (stem : String)
    (type : ElementType) (address : Nat) (nonzero : address ≠ 0) :
    after.outside.dealings.countP (Entry.isAllocAt (symbolName stem type .alloc) address) =
      after.tally fun holding _ => if after.Under stem type address holding then 1 else 0 := by
  have count := conserved.obtained stem type address nonzero
  cases effect with
  | provided source allowed =>
      refine count.trans (before.tally_weigh_congr ?_)
      intro holding held
      have older := (Effect.provided source allowed).source (provided holding held)
      simp only [under_congr older]
  | idle steady _ tally _ dealings =>
      simp only [under_congr (steady.source _), tally, ← count]
      rcases dealings with same | ⟨_, _, _, _, _, _, _, _, called⟩
      · rw [same]
      · -- A call that gave no memory gave the address zero.
        rw [called, List.countP_append, List.countP_singleton]
        simp only [Entry.isAllocAt, nonzero.symm, and_false, decide_false, Bool.false_eq_true,
          ↓reduceIte, Nat.add_zero]
  | @granted middle _ number holding steady _ requested providers _ _ _ tally dealings =>
      have source : (middle.providers holding.provider).source =
          (before.providers holding.provider).source := by
        rw [← providers, steady.source]
      simp only [under_congr (steady.source _), tally]
      rw [dealings, List.countP_append, requested.obtained source, count]
      rfl
  | @returned asked _ answer number holding steady _ returned _ _ _ tally dealings =>
      have settled := tally fun holding _ =>
        if before.Under stem type address holding then 1 else 0
      simp only [under_congr (steady.source _)]
      rw [Nat.add_right_cancel settled, ← count, returned.countP_isAllocAt, dealings,
        List.countP_append]
      rfl

/-- Whatever is done, the calls that took an address back are as many as the blocks there that
were freed. A return adds one of each, or none of either if it fails. -/
theorem Effect.released {before after : World P} (effect : Effect caches before after)
    (provided : before.Provided) (conserved : before.Conserved) (stem : String)
    (type : ElementType) (address : Nat) :
    after.outside.dealings.countP (Entry.isDeallocAt (symbolName stem type .dealloc) address) =
      after.tally fun holding outcome =>
        if after.Under stem type address holding ∧ outcome = some .freed then 1 else 0 := by
  have count := conserved.released stem type address
  cases effect with
  | provided source allowed =>
      refine count.trans (before.tally_weigh_congr ?_)
      intro holding held
      have older := (Effect.provided source allowed).source (provided holding held)
      simp only [under_congr older]
  | idle steady _ tally _ dealings =>
      simp only [under_congr (steady.source _), tally, ← count]
      rcases dealings with same | ⟨_, _, _, _, _, _, _, _, called⟩
      · rw [same]
      · rw [called, List.countP_append]
        rfl
  | granted _ _ steady _ requested _ _ _ _ tally dealings =>
      simp only [under_congr (steady.source _), tally, reduceCtorEq, and_false, ↓reduceIte,
        Nat.add_zero, ← count]
      rw [dealings, List.countP_append, requested.countP_isDeallocAt]
      rfl
  | @returned asked _ answer _ holding steady _ returned providers _ _ tally dealings =>
      have source : (asked.providers holding.provider).source =
          (before.providers holding.provider).source := by
        rw [providers]
      have later : (after.providers holding.provider).source =
          (asked.providers holding.provider).source :=
        (steady.source _).trans source.symm
      have settled := tally fun holding outcome =>
        if before.Under stem type address holding ∧ outcome = some .freed then 1 else 0
      simp only [reduceCtorEq, and_false, ↓reduceIte, Nat.add_zero] at settled
      simp only [under_congr (steady.source _)]
      rw [settled, returned.released later, dealings, List.countP_append, count]
      simp only [under_congr source]
      rfl

/-- Whatever is done, calls and blocks agree afterwards. -/
theorem Effect.conserved {before after : World P} (effect : Effect caches before after)
    (provided : before.Provided) (conserved : before.Conserved) : after.Conserved where
  obtained := effect.obtained provided conserved
  released := effect.released provided conserved

/-- In every reachable world calls and blocks agree. -/
theorem Reachable.conserved {world : World P} (reachable : world.Reachable caches) :
    world.Conserved := by
  induction reachable with
  | fresh state => exact conserved_fresh state
  | move earlier moved ih => exact (moved.effect earlier.owned).conserved earlier.provided ih

/-- The addresses that an entry point gave were taken back, or belong to blocks that
are live or leaked. -/
theorem Conserved.allocCalls_eq_add {world : World P} (conserved : world.Conserved)
    (owned : world.Owned) (stem : String) (type : ElementType) {address : Nat}
    (nonzero : address ≠ 0) :
    world.allocCalls (symbolName stem type .alloc) address =
      world.deallocCalls (symbolName stem type .dealloc) address +
        world.living.countP (world.isUnder stem type address) +
        world.leaked.countP (world.isUnder stem type address) := by
  have living : world.living.countP (world.isUnder stem type address) = _ :=
    owned.countP_living (world.Under stem type address)
  have leaked : world.leaked.countP (world.isUnder stem type address) = _ :=
    world.countP_leaked (world.Under stem type address)
  have split := owned.tally_split (world.Under stem type address)
  rw [world.allocCalls_eq, world.deallocCalls_eq, conserved.obtained stem type address nonzero,
    conserved.released, living, leaked, split]
  exact Nat.add_right_comm ..

/-- A request calls nothing but what its provider finds in its cached library. -/
theorem Requested.offered {world after : World P} {number : Nat} {type : ElementType}
    {length : UInt64} {answer : Except Error Nat}
    (requested : world.Requested number type length answer after) {loaded : LoadedLibrary P}
    {symbol : String} {call : Call} (called : .called loaded symbol call ∈ after.outside.dealings) :
    .called loaded symbol call ∈ world.outside.dealings ∨
      ∃ route cache, after.Offers number type call.operation loaded symbol route cache := by
  cases requested with
  | refused _ dealings | hosted _ _ _ dealings =>
      rw [dealings] at called
      exact .inl called
  | barren offers _ dealings | fetched _ offers _ dealings =>
      rw [dealings] at called
      rcases List.mem_append.mp called with older | new
      · exact .inl older
      · cases List.mem_singleton.mp new
        exact .inr ⟨_, _, offers⟩

/-- A return calls nothing but what its provider finds in its cached library. -/
theorem Returned.offered {world after : World P} {number address : Nat} {type : ElementType}
    {length : UInt64} {answer : Except Error Unit}
    (returned : world.Returned number type address length answer after)
    {loaded : LoadedLibrary P} {symbol : String} {call : Call}
    (called : .called loaded symbol call ∈ after.outside.dealings) :
    .called loaded symbol call ∈ world.outside.dealings ∨
      ∃ route cache, after.Offers number type call.operation loaded symbol route cache := by
  cases returned with
  | unsized _ _ dealings | unreached _ _ dealings | hosted _ _ dealings =>
      rw [dealings] at called
      exact .inl called
  | fetched offers _ dealings =>
      rw [dealings] at called
      rcases List.mem_append.mp called with older | new
      · exact .inl older
      · cases List.mem_singleton.mp new
        exact .inr ⟨_, _, offers⟩

/-- Whatever is done, nothing is called but what some provider finds in its cached library,
for what it is called for. -/
theorem Effect.offered {before after : World P} (effect : Effect caches before after)
    {loaded : LoadedLibrary P} {symbol : String} {call : Call}
    (called : .called loaded symbol call ∈ after.outside.dealings) :
    .called loaded symbol call ∈ before.outside.dealings ∨
      ∃ number type route cache,
        after.Offers number type call.operation loaded symbol route cache := by
  cases effect with
  | provided => exact .inl called
  | idle _ _ _ _ dealings =>
      rcases dealings with same | ⟨_, _, _, _, _, _, _, offers, made⟩
      · rw [same] at called
        exact .inl called
      · rw [made] at called
        rcases List.mem_append.mp called with older | new
        · exact .inl older
        · cases List.mem_singleton.mp new
          exact .inr ⟨_, _, _, _, offers⟩
  | granted _ _ _ _ requested providers same _ _ _ dealings =>
      rw [dealings] at called
      rcases List.mem_append.mp called with older | new
      · rcases requested.offered older with known | ⟨_, _, offers⟩
        · exact .inl known
        · exact .inr ⟨_, _, _, _, providers ▸ offers.source, offers.symbol_eq,
            same ▸ offers.offered⟩
      · cases List.mem_singleton.mp new
  | returned _ _ _ _ returned _ _ _ _ dealings =>
      rcases returned.offered called with older | ⟨_, _, offers⟩
      · rw [dealings] at older
        rcases List.mem_append.mp older with known | new
        · exact .inl known
        · cases List.mem_singleton.mp new
      · exact .inr ⟨_, _, _, _, offers⟩

/-- Providers take their libraries from the given caches, and all entry points that
were ever called are found in libraries that are cached there. -/
structure Resolved (caches : Nat → Prop) (world : World P) : Prop where
  within : ∀ provider, (world.providers provider).source.Within caches
  called : ∀ loaded symbol call, .called loaded symbol call ∈ world.outside.dealings →
    ∃ cache, caches cache ∧ (world.caches cache).Offers .accelerator loaded symbol

/-- An effect that keeps sources and libraries calls only what is offered. -/
theorem Effect.keepsResolved {before after : World P} (effect : Effect caches before after)
    (resolved : before.Resolved caches) (steady : before.Steady after) :
    after.Resolved caches := by
  have within (provider : Nat) : (after.providers provider).source.Within caches := by
    rw [steady.source]
    exact resolved.within provider
  refine ⟨within, ?_⟩
  intro loaded symbol call called
  rcases effect.offered called with older | ⟨number, _, route, cache, offers⟩
  · obtain ⟨cache, allowed, cached, found⟩ := resolved.called loaded symbol call older
    exact ⟨cache, allowed, steady.kept _ _ _ cached, found⟩
  · have allowed := within number
    rw [offers.source] at allowed
    refine ⟨cache, allowed.2, ?_⟩
    rw [← allowed.1]
    exact offers.offered

/-- Whatever is done, the entry points that were called are found in libraries that are cached
in the given caches. -/
theorem Effect.resolved {before after : World P} (effect : Effect caches before after)
    (resolved : before.Resolved caches) : after.Resolved caches := by
  have keeps := effect.keepsResolved resolved
  cases effect with
  | provided source allowed =>
      refine ⟨?_, resolved.called⟩
      intro provider
      change (replace before.providers before.nextProvider { source } provider).source.Within caches
      by_cases new : provider = before.nextProvider
      · rw [new, replace_same]
        exact allowed
      · rw [replace_other _ _ new]
        exact resolved.within provider
  | idle steady | granted _ _ steady | returned _ _ steady => exact keeps steady

/-- In every reachable world they are. -/
theorem Reachable.resolved {world : World P} (reachable : world.Reachable caches) :
    world.Resolved caches := by
  induction reachable with
  | fresh state => exact ⟨fun _ => trivial, nofun⟩
  | move earlier moved ih => exact (moved.effect earlier.owned).resolved ih

end World

namespace Session

/-- Calls of entry points can be counted on the platform or in the journal. -/
theorem Performs.countP_eq {state : P.State} {steps : List (Step P)} {deeds : List (Deed P)}
    (performs : (start state).Performs steps deeds) {done : Deed P → Bool}
    {written : Entry P → Bool} (unentered : ∀ deed, deed.isEntered = false → done deed = false)
    (agree : ∀ entry : Entry P, (entry.deed?.map done).getD false = written entry) :
    deeds.countP done = ((start state).run steps).world.outside.journal.countP written := by
  have told : ((start state).run steps).world.outside.journal.filterMap Entry.deed? =
      deeds.filter Deed.isEntered := performs.told
  have entered : (deeds.filter Deed.isEntered).countP done = deeds.countP done := by
    rw [List.countP_filter]
    congr 1
    funext deed
    cases sort : deed.isEntered with
    | true => exact Bool.and_true _
    | false => rw [unentered deed sort, Bool.false_and]
  rw [← entered, ← told, List.countP_filterMap]
  congr 1
  funext entry
  exact agree entry

/-- The platform gave an address as often as the journal says. -/
theorem Performs.allocs_eq {state : P.State} {steps : List (Step P)} {deeds : List (Deed P)}
    (performs : (start state).Performs steps deeds) (symbol : String) (address : Nat) :
    deeds.countP (Deed.isAllocAt symbol address) =
      ((start state).run steps).world.allocCalls symbol address := by
  apply performs.countP_eq
  · intro deed unentered
    cases deed with
    | called => cases unentered
    | opened | hostAlloc | hostFree => rfl
  · intro entry
    cases entry with
    | called _ _ call => cases call <;> rfl
    | _ => rfl

/-- The platform was given an address back as often as the journal says. -/
theorem Performs.deallocs_eq {state : P.State} {steps : List (Step P)} {deeds : List (Deed P)}
    (performs : (start state).Performs steps deeds) (symbol : String) (address : Nat) :
    deeds.countP (Deed.isDeallocAt symbol address) =
      ((start state).run steps).world.deallocCalls symbol address := by
  apply performs.countP_eq
  · intro deed unentered
    cases deed with
    | called => cases unentered
    | opened | hostAlloc | hostFree => rfl
  · intro entry
    cases entry with
    | called _ _ call => cases call <;> rfl
    | _ => rfl

/-- Every call that the platform received is in the journal. -/
theorem Performs.called {state : P.State} {steps : List (Step P)} {deeds : List (Deed P)}
    (performs : (start state).Performs steps deeds) {loaded : LoadedLibrary P} {symbol : String}
    {call : Call} (done : .called loaded symbol call ∈ deeds) :
    .called loaded symbol call ∈ ((start state).run steps).world.outside.dealings := by
  have told : ((start state).run steps).world.outside.journal.filterMap Entry.deed? =
      deeds.filter Deed.isEntered := performs.told
  exact List.mem_filter.mpr ⟨Entry.called_mem told done, rfl⟩

end Session

/-- **Conservation of calls.** Take any session whose allocators share a cache, and all
that it does to the platform. It can be told step by step (`Session.Performs`): each entry
point is the one that its library has under its name when it is called, and one that
obtains memory gets the length that the step requests, which is positive. All entry points
that were called belong to the one library that is cached. And every address that an
entry point gave was taken back by the entry point of the same stem and type, or belongs
to a block that is live, or to one whose release failed. -/
theorem Session.run_conserves (state : P.State) (steps : List (Step P)) (cache : Nat)
    (shared : ∀ step ∈ steps, step.Within (· = cache)) :
    let world := ((start state).run steps).world
    (∃ deeds, (start state).Performs steps deeds) ∧
    ∀ deeds, (start state).Performs steps deeds →
      (∀ loaded symbol call, .called loaded symbol call ∈ deeds →
        (world.caches cache).get? .accelerator = some loaded) ∧
      ∀ stem type address, address ≠ 0 →
        deeds.countP (Deed.isAllocAt (symbolName stem type .alloc) address) =
          deeds.countP (Deed.isDeallocAt (symbolName stem type .dealloc) address) +
            world.living.countP (world.isUnder stem type address) +
            world.leaked.countP (world.isUnder stem type address) := by
  intro world
  have reachable : world.Reachable (· = cache) := run_reachable state steps shared
  refine ⟨(start state).run_performs steps, ?_⟩
  intro deeds performs
  constructor
  · intro loaded symbol call done
    obtain ⟨_, rfl, offers⟩ := reachable.resolved.called loaded symbol call (performs.called done)
    exact offers.cached
  · intro stem type address nonzero
    rw [performs.allocs_eq, performs.deallocs_eq]
    exact reachable.conserved.allocCalls_eq_add reachable.owned stem type nonzero

namespace Session

open Simulation

/-- Two allocators share a cache, but not a stem. The library gives all three
blocks the same address; one block is released, one leaks, and one stays. -/
def pooledSteps : List (Step Machine.platform) :=
  [.make ⟨some Linker.library, "", "awkward_cuda_ptr"⟩ 0,
    .make ⟨some Linker.library, "", "partial_"⟩ 0,
    .allocate 0 3 .float32 .accelerator, .allocate 0 5 .float32 .accelerator,
    .allocate 1 7 .float32 .accelerator, .drop 0, .drop 2]

/-- Of the three blocks at one address, two were obtained under the one stem and one under the
other. Each is accounted for under its own. -/
theorem pooled_conserves :
    let world := ((start (P := Machine.platform) {}).run pooledSteps).world
    (∀ step ∈ pooledSteps, step.Within (· = 0)) ∧
    ∃ deeds, (start (P := Machine.platform) {}).Performs pooledSteps deeds ∧
      deeds.countP (Deed.isAllocAt "awkward_cuda_ptrf_alloc" 0x600000) = 2 ∧
      deeds.countP (Deed.isDeallocAt "awkward_cuda_ptrf_dealloc" 0x600000) +
        world.living.countP (world.isUnder "awkward_cuda_ptr" .float32 0x600000) +
        world.leaked.countP (world.isUnder "awkward_cuda_ptr" .float32 0x600000) = 2 ∧
      deeds.countP (Deed.isDeallocAt "partial_f_dealloc" 0x600000) +
        world.living.countP (world.isUnder "partial_" .float32 0x600000) +
        world.leaked.countP (world.isUnder "partial_" .float32 0x600000) = 1 := by
  intro world
  have shared : ∀ step ∈ pooledSteps, step.Within (· = 0) := by
    simp [pooledSteps, Step.Within]
  have twice : world.allocCalls "awkward_cuda_ptrf_alloc" 0x600000 = 2 := by decide +kernel
  have once : world.allocCalls "partial_f_alloc" 0x600000 = 1 := by decide +kernel
  obtain ⟨⟨deeds, performs⟩, conserves⟩ :=
    run_conserves (P := Machine.platform) {} pooledSteps 0 shared
  obtain ⟨_, conserved⟩ := conserves deeds performs
  have given := performs.allocs_eq "awkward_cuda_ptrf_alloc" 0x600000
  have given' := performs.allocs_eq "partial_f_alloc" 0x600000
  refine ⟨shared, deeds, performs, given.trans twice, ?_, ?_⟩
  · exact (conserved "awkward_cuda_ptr" .float32 0x600000 (by decide)).symm.trans
      (given.trans twice)
  · exact (conserved "partial_" .float32 0x600000 (by decide)).symm.trans (given'.trans once)

end Session

end TypedMemory
