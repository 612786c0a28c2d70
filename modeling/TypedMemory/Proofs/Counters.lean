import TypedMemory.Proofs.Effect

/-!
# Counters

The four counters of a provider wrap around, so they are compared with counts of
grants and blocks as words. In every reachable world a provider has counted each
grant once, and each block that was given back once, as a release or as a failure;
the bytes that are charged to it are those of its live blocks and of its leaked
ones (`Session.run_counters`). The host never fails to take a block back, because
the layout that was computed to grant it is computed again.
-/

namespace TypedMemory

variable {P : Platform}

/-- Whether an entry is a grant by a provider. -/
def Entry.isGrantBy (provider : Nat) : Entry P → Bool
  | .granted _ other _ _ _ => other = provider
  | _ => false

/-- Count a return by its answer. -/
def Stats.recordReturn (stats : Stats) (bytes : Nat) : Except Error Unit → Stats
  | .ok _ => stats.recordRelease bytes
  | .error _ => stats.recordFailedRelease

namespace Block

/-- The bytes of a block, at most as many as a counter holds. -/
def bytes (block : Block) : Nat := min (block.length.toNat * block.type.size) (wordLimit - 1)

/-- Whether a block holds memory of a provider. -/
def isFrom (provider : Nat) (block : Block) : Bool :=
  block.isEmpty = false ∧ block.provider = provider

end Block

namespace World

variable {caches : Nat → Prop}

/-- How many grants a provider made. -/
def grantsBy (world : World P) (provider : Nat) : Nat :=
  world.outside.journal.countP (Entry.isGrantBy provider)

/-- Grants of a provider can be counted in the dealings. -/
theorem grantsBy_eq (world : World P) (provider : Nat) :
    world.grantsBy provider = world.outside.dealings.countP (Entry.isGrantBy provider) := by
  apply Outside.countP_journal
  intro entry other
  cases entry with
  | granted => cases other
  | _ => rfl

/-- The counters that a provider should have, from its blocks. -/
def balance (world : World P) (provider : Nat) : Stats where
  allocations := .ofNat (world.tally fun holding _ =>
    if holding.provider = provider then 1 else 0)
  releases := .ofNat (world.tally fun holding outcome =>
    if holding.provider = provider ∧ outcome = some .freed then 1 else 0)
  failedReleases := .ofNat (world.tally fun holding outcome =>
    if holding.provider = provider ∧ outcome = some .failed then 1 else 0)
  liveBytes := .ofNat (world.tally fun holding outcome =>
    if holding.provider = provider ∧ (outcome = none ∨ outcome = some .failed) then
      Route.charge holding.type holding.length else 0)

/-- The counters of every provider are those it should have, and the host can
compute the layout of every block it granted. -/
structure Counted (world : World P) : Prop where
  sized : ∀ holding, world.Holds holding → (world.providers holding.provider).source = .host →
    ∃ bytes, HostMemory.layout holding.type holding.length = .ok bytes
  stats : ∀ provider, (world.providers provider).stats = world.balance provider
  grants : ∀ provider, world.outside.dealings.countP (Entry.isGrantBy provider) =
    world.tally fun holding _ => if holding.provider = provider then 1 else 0
  unfailing : ∀ provider, (world.providers provider).source = .host →
    (world.tally fun holding outcome =>
      if holding.provider = provider ∧ outcome = some .failed then 1 else 0) = 0

/-- In a fresh world there is nothing to count. -/
theorem counted_fresh (state : P.State) : (fresh state : World P).Counted where
  sized _ := by rintro ⟨_, ⟨⟩, _⟩
  stats _ := rfl
  grants _ := rfl
  unfailing _ _ := rfl

/-- What a provider ought to have counted depends on the tallies of its blocks only. -/
theorem balance_congr {before after : World P}
    (tally : ∀ weigh, after.tally weigh = before.tally weigh) (provider : Nat) :
    after.balance provider = before.balance provider := by
  unfold balance
  simp only [tally]

/-- A grant is counted by its provider. -/
theorem balance_granted {before after : World P} {holding : Holding}
    (tally : ∀ weigh, after.tally weigh = before.tally weigh + weigh holding none) :
    after.balance holding.provider =
      (before.balance holding.provider).recordAllocation
        (Route.charge holding.type holding.length) := by
  unfold balance Stats.recordAllocation
  simp only [tally, UInt64.ofNat_add, ↓reduceIte, reduceCtorEq, and_false, and_true, true_or,
    Nat.add_zero]
  rfl

/-- A grant is no other provider's affair. -/
theorem balance_granted_other {before after : World P} {holding : Holding} {provider : Nat}
    (tally : ∀ weigh, after.tally weigh = before.tally weigh + weigh holding none)
    (other : provider ≠ holding.provider) :
    after.balance provider = before.balance provider := by
  unfold balance
  simp only [tally, Ne.symm other, false_and, ↓reduceIte, Nat.add_zero]

/-- Words count down as numbers do. -/
theorem ofNat_sub_of_add {whole part rest : Nat} (sum : rest + part = whole) :
    UInt64.ofNat rest = UInt64.ofNat whole - UInt64.ofNat part := by
  rw [← sum, UInt64.ofNat_add]
  exact (UInt64.add_sub_cancel ..).symm

/-- A return is counted by its provider: as a release, with which its bytes are no
longer charged, or as a failure. -/
theorem balance_returned {before after : World P} {holding : Holding}
    {answer : Except Error Unit}
    (tally : ∀ weigh, after.tally weigh + weigh holding none =
      before.tally weigh + weigh holding (some (outcomeOf answer))) :
    after.balance holding.provider =
      (before.balance holding.provider).recordReturn
        (Route.charge holding.type holding.length) answer := by
  have allocations := tally fun other _ => if other.provider = holding.provider then 1 else 0
  have releases := tally fun other outcome =>
    if other.provider = holding.provider ∧ outcome = some .freed then 1 else 0
  have failures := tally fun other outcome =>
    if other.provider = holding.provider ∧ outcome = some .failed then 1 else 0
  have charged := tally fun other outcome =>
    if other.provider = holding.provider ∧ (outcome = none ∨ outcome = some .failed) then
      Route.charge other.type other.length else 0
  unfold balance
  cases answer with
  | ok _ =>
      simp only [outcomeOf, reduceCtorEq, and_false, and_true, true_or, false_or,
        Option.some.injEq, ↓reduceIte, Nat.add_zero, Nat.add_right_cancel_iff]
        at allocations releases failures charged
      rw [allocations, releases, failures, ofNat_sub_of_add charged, UInt64.ofNat_add]
      rfl
  | error error =>
      simp only [outcomeOf, reduceCtorEq, and_false, and_true, or_true, true_or,
        Option.some.injEq, ↓reduceIte, Nat.add_zero, Nat.add_right_cancel_iff]
        at allocations releases failures charged
      rw [allocations, releases, failures, charged, UInt64.ofNat_add]
      rfl

/-- A return is no other provider's affair. -/
theorem balance_returned_other {before after : World P} {holding : Holding} {provider : Nat}
    {outcome : Option ReleaseOutcome}
    (tally : ∀ weigh, after.tally weigh + weigh holding none =
      before.tally weigh + weigh holding outcome)
    (other : provider ≠ holding.provider) :
    after.balance provider = before.balance provider := by
  have same (weigh : Holding → Option ReleaseOutcome → Nat)
      (weightless : weigh holding = fun _ => 0) : after.tally weigh = before.tally weigh := by
    have settled := tally weigh
    rw [weightless] at settled
    exact settled
  unfold balance
  rw [same, same, same, same] <;> simp [Ne.symm other]

/-- A provider that was not added yet has nothing to count. -/
theorem Provided.balance_unknown {world : World P} (provided : world.Provided) {provider : Nat}
    (unknown : world.nextProvider ≤ provider) : world.balance provider = {} := by
  have none (weigh : Holding → Option ReleaseOutcome → Nat)
      (others : ∀ holding, holding.provider ≠ provider → ∀ outcome, weigh holding outcome = 0) :
      world.tally weigh = 0 := by
    apply world.tally_eq_zero
    intro holding held
    apply others
    exact Nat.ne_of_lt (Nat.lt_of_lt_of_le (provided holding held) unknown)
  unfold balance
  rw [none, none, none, none]
  · rfl
  all_goals
    intro holding other outcome
    simp [other]

/-- Calls of entry points are no grants. -/
theorem countP_isGrantBy_called {dealings made : List (Entry P)}
    (calls : ∀ entry ∈ made, ∃ loaded symbol call, entry = .called loaded symbol call)
    (provider : Nat) :
    (dealings ++ made).countP (Entry.isGrantBy provider) =
      dealings.countP (Entry.isGrantBy provider) := by
  have none : made.countP (Entry.isGrantBy provider) = 0 := by
    apply List.countP_eq_zero.mpr
    intro entry member
    obtain ⟨loaded, symbol, call, rfl⟩ := calls entry member
    exact Bool.false_ne_true
  rw [List.countP_append, none, Nat.add_zero]

/-- A return of memory that the host can size is counted as a release or as a
failure, and the host never fails. -/
theorem Returned.recorded {world after : World P} {number address : Nat} {type : ElementType}
    {length : UInt64} {answer : Except Error Unit}
    (returned : world.Returned number type address length answer after)
    (sized : (world.providers number).source = .host →
      ∃ bytes, HostMemory.layout type length = .ok bytes) :
    (after.providers number).stats =
      (world.providers number).stats.recordReturn (Route.charge type length) answer ∧
    ((world.providers number).source = .host → outcomeOf answer = .freed) := by
  cases returned with
  | unsized source refused _ =>
      obtain ⟨bytes, fits⟩ := sized source
      cases refused.symm.trans fits
  | unreached source stats _ =>
      refine ⟨stats, ?_⟩
      intro host
      cases source.symm.trans host
  | hosted _ stats _ => exact ⟨stats, fun _ => rfl⟩
  | fetched _ stats _ => exact ⟨stats, fun _ => rfl⟩

/-- Every block that holds host memory has a layout: it had one when it was granted. -/
theorem Effect.sized {before after : World P} (effect : Effect caches before after)
    (provided : before.Provided) (counted : before.Counted) (holding : Holding)
    (held : after.Holds holding)
    (host : (after.providers holding.provider).source = .host) :
    ∃ bytes, HostMemory.layout holding.type holding.length = .ok bytes := by
  cases effect with
  | provided source allowed =>
      have older := (Effect.provided source allowed).source (provided holding held)
      exact counted.sized holding held (older.symm.trans host)
  | idle steady holds | returned _ _ steady _ _ _ _ holds =>
      rw [steady.source] at host
      exact counted.sized holding (holds holding held) host
  | granted _ _ steady _ requested providers _ _ holds =>
      rcases holds holding held with rfl | older
      · cases requested with
        | hosted _ sized _ _ => exact ⟨_, sized⟩
        | fetched _ offers _ _ =>
            rw [providers, offers.source] at host
            cases host
      · rw [steady.source] at host
        exact counted.sized holding older host

/-- The counters of every provider stay those it should have. -/
theorem Effect.stats {before after : World P} (effect : Effect caches before after)
    (provided : before.Provided) (counted : before.Counted) (provider : Nat) :
    (after.providers provider).stats = after.balance provider := by
  cases effect with
  | provided source _ =>
      by_cases new : provider = before.nextProvider
      · subst new
        refine (congrArg Provider.stats (replace_same ..)).trans ?_
        exact (provided.balance_unknown (Nat.le_refl _)).symm
      · refine (congrArg Provider.stats (replace_other _ _ new)).trans ?_
        exact counted.stats provider
  | idle _ _ tally stats =>
      rw [stats, balance_congr tally]
      exact counted.stats provider
  | granted _ holding _ _ requested providers _ others _ tally =>
      by_cases same : provider = holding.provider
      · subst same
        rw [balance_granted tally, ← counted.stats, providers]
        cases requested with
        | hosted _ _ stats _ => exact stats
        | fetched _ _ stats _ => exact stats
      · rw [others provider same, balance_granted_other tally same]
        exact counted.stats provider
  | returned _ holding _ held returned providers others _ tally =>
      by_cases same : provider = holding.provider
      · subst same
        have recorded := (returned.recorded (by rw [providers]; exact counted.sized _ held)).1
        rw [recorded, balance_returned tally, ← counted.stats, providers]
      · rw [others provider same, balance_returned_other tally same]
        exact counted.stats provider

/-- A provider has as many blocks as it made grants. -/
theorem Effect.grants {before after : World P} (effect : Effect caches before after)
    (counted : before.Counted) (provider : Nat) :
    after.outside.dealings.countP (Entry.isGrantBy provider) =
      after.tally fun holding _ => if holding.provider = provider then 1 else 0 := by
  cases effect with
  | provided => exact counted.grants provider
  | idle _ _ tally _ dealings =>
      rw [tally, ← counted.grants]
      rcases dealings with same | ⟨_, _, _, _, _, _, _, _, called⟩
      · rw [same]
      · rw [called]
        exact countP_isGrantBy_called
          (fun _ member => ⟨_, _, _, List.mem_singleton.mp member⟩) provider
  | granted _ _ _ _ requested _ _ _ _ tally dealings =>
      obtain ⟨made, called, calls⟩ := requested.calls
      rw [dealings, called, List.countP_append, countP_isGrantBy_called calls, tally,
        counted.grants, List.countP_singleton]
      simp only [Entry.isGrantBy, decide_eq_true_eq]
  | returned _ _ _ _ returned _ _ _ tally dealings =>
      obtain ⟨made, called, calls⟩ := returned.calls
      have settled := tally fun other _ => if other.provider = provider then 1 else 0
      rw [called, countP_isGrantBy_called calls, dealings, List.countP_append, counted.grants,
        List.countP_singleton, Nat.add_right_cancel settled]
      rfl

/-- No block of a host provider fails to be released. -/
theorem Effect.unfailing {before after : World P} (effect : Effect caches before after)
    (provided : before.Provided) (counted : before.Counted) (provider : Nat)
    (host : (after.providers provider).source = .host) :
    (after.tally fun holding outcome =>
      if holding.provider = provider ∧ outcome = some .failed then 1 else 0) = 0 := by
  cases effect with
  | provided source _ =>
      by_cases new : provider = before.nextProvider
      · apply tally_eq_zero
        intro holding held outcome
        have apart := Nat.ne_of_lt (provided holding held)
        rw [← new] at apart
        exact if_neg fun both => apart both.1
      · refine counted.unfailing provider ?_
        exact (congrArg Provider.source (replace_other _ _ new)).symm.trans host
  | idle steady _ tally =>
      rw [tally]
      exact counted.unfailing provider ((steady.source provider).symm.trans host)
  | granted _ _ steady _ _ _ _ _ _ tally =>
      rw [tally, counted.unfailing provider ((steady.source provider).symm.trans host)]
      simp only [reduceCtorEq, and_false, ↓reduceIte]
  | @returned _ _ answer _ holding steady held returned providers _ _ tally =>
      rw [steady.source, ← providers] at host
      have settled := tally fun other outcome =>
        if other.provider = provider ∧ outcome = some .failed then 1 else 0
      have freed : ¬ (holding.provider = provider ∧ some (outcomeOf answer) = some .failed) := by
        rintro ⟨rfl, failed⟩
        rw [(returned.recorded (by rw [providers]; exact counted.sized _ held)).2 host] at failed
        cases failed
      rw [providers] at host
      rw [counted.unfailing provider host, if_neg freed] at settled
      exact Nat.eq_zero_of_add_eq_zero_right settled

/-- Whatever is done, counters and blocks agree afterwards. -/
theorem Effect.counted {before after : World P} (effect : Effect caches before after)
    (provided : before.Provided) (counted : before.Counted) : after.Counted where
  sized := effect.sized provided counted
  stats := effect.stats provided counted
  grants := effect.grants counted
  unfailing := effect.unfailing provided counted

/-- In every reachable world the counters agree with the blocks. -/
theorem Reachable.counted {world : World P} (reachable : world.Reachable caches) :
    world.Counted := by
  induction reachable with
  | fresh state => exact counted_fresh state
  | move earlier moved ih => exact (moved.effect earlier.owned).counted earlier.provided ih

/-- Every block of a provider was released, failed to be released, or is live. -/
theorem Owned.allocations_eq {world : World P} (owned : world.Owned) (provider : Nat) :
    (world.balance provider).allocations =
      (world.balance provider).releases + (world.balance provider).failedReleases +
        .ofNat (world.living.countP (Block.isFrom provider)) := by
  have living : world.living.countP (Block.isFrom provider) = _ :=
    owned.countP_living fun holding => holding.provider = provider
  have split := owned.tally_split fun holding => holding.provider = provider
  unfold balance
  rw [split, living, UInt64.ofNat_add, UInt64.ofNat_add]

/-- The bytes that are charged to a provider are those of its blocks that are live
or leaked. -/
theorem Owned.liveBytes_eq {world : World P} (owned : world.Owned) (provider : Nat) :
    (world.balance provider).liveBytes =
      .ofNat ((world.outstanding.filter (Block.isFrom provider)).map Block.bytes).sum := by
  have sum := owned.sum_outstanding (fun holding => holding.provider = provider)
    fun holding => Route.charge holding.type holding.length
  exact congrArg UInt64.ofNat sum.symm

/-- When no buffer is live, only leaked blocks are outstanding. -/
theorem outstanding_of_dropped {world : World P} (dropped : world.buffers = []) :
    world.outstanding = world.leaked ∧ world.living = [] := by
  have unowned (number : Nat) : world.handles number = 0 := by
    unfold handles
    rw [dropped]
    rfl
  unfold outstanding leaked living pick
  simp [unowned]

/-- Host memory never leaks. -/
theorem Counted.leaked_of_host {world : World P} (counted : world.Counted) {provider : Nat}
    (host : (world.providers provider).source = .host) :
    world.leaked.filter (Block.isFrom provider) = [] := by
  have none := world.countP_leaked fun holding => holding.provider = provider
  rw [counted.unfailing provider host, List.countP_eq_length_filter] at none
  exact List.eq_nil_of_length_eq_zero none

end World

/-- **Counter accounting.** After any session, and modulo `2 ^ 64`, a provider has
counted the grants that it made; each of them was released, failed to be released,
or is live; and the bytes charged to it are those of its live and its leaked
blocks. A host provider never fails. So when all buffers are dropped, a host
provider has released all that it granted, and other providers are charged for
what leaked. -/
theorem Session.run_counters (state : P.State) (steps : List (Step P)) (number : Nat) :
    let world := ((start state).run steps).world
    let provider := world.providers number
    provider.stats.allocations = .ofNat (world.grantsBy number) ∧
    provider.stats.allocations =
      provider.stats.releases + provider.stats.failedReleases +
        .ofNat (world.living.countP (Block.isFrom number)) ∧
    provider.stats.liveBytes =
      .ofNat ((world.outstanding.filter (Block.isFrom number)).map Block.bytes).sum ∧
    (provider.source = .host → provider.stats.failedReleases = 0) ∧
    (world.buffers = [] →
      provider.stats.liveBytes =
        .ofNat ((world.leaked.filter (Block.isFrom number)).map Block.bytes).sum ∧
      (provider.source = .host →
        provider.stats.releases = provider.stats.allocations ∧ provider.stats.liveBytes = 0)) := by
  intro world provider
  have reachable : world.Reachable fun _ => True := run_reachable_any state steps
  have owned := reachable.owned
  have counted := reachable.counted
  have stats : provider.stats = world.balance number := counted.stats number
  have failures (host : provider.source = .host) : provider.stats.failedReleases = 0 := by
    rw [stats]
    exact congrArg UInt64.ofNat (counted.unfailing number host)
  have allocations := owned.allocations_eq number
  have liveBytes := owned.liveBytes_eq number
  rw [← stats] at allocations liveBytes
  refine ⟨?_, allocations, liveBytes, failures, ?_⟩
  · rw [world.grantsBy_eq, counted.grants, stats]
    rfl
  · intro dropped
    obtain ⟨outstanding, living⟩ := World.outstanding_of_dropped dropped
    rw [outstanding] at liveBytes
    refine ⟨liveBytes, ?_⟩
    intro host
    rw [failures host, living] at allocations
    rw [counted.leaked_of_host host] at liveBytes
    refine ⟨?_, liveBytes⟩
    rw [allocations]
    exact ((UInt64.add_zero _).trans (UInt64.add_zero _)).symm

namespace Session

open Simulation

/-- A library can obtain blocks of a type but not release them. A block of it
leaks, and a block of host memory is cloned and given back. -/
def leaky : Session Machine.platform :=
  (start (P := Machine.platform) {}).run
    [.make ⟨some Linker.library, "", "partial_"⟩ 0, .allocate 0 3 .float64 .host,
      .allocate 0 7 .float32 .accelerator, .clone 0, .drop 0, .drop 2, .drop 1]

/-- After all buffers are gone, the host has taken back what it gave, and the accelerator is
charged with what leaked. -/
theorem leaky_counters :
    (leaky.world.providers 0).source = .host ∧ leaky.world.buffers = [] ∧
    (leaky.world.providers 0).stats.releases = (leaky.world.providers 0).stats.allocations ∧
    (leaky.world.providers 0).stats.liveBytes = 0 ∧
    (leaky.world.providers 1).stats.liveBytes =
      .ofNat ((leaky.world.leaked.filter (Block.isFrom 1)).map Block.bytes).sum ∧
    ((leaky.world.leaked.filter (Block.isFrom 1)).map Block.bytes).sum = 28 := by
  have host : (leaky.world.providers 0).source = .host := by decide +kernel
  have dropped : leaky.world.buffers = [] := by decide +kernel
  obtain ⟨releases, liveBytes⟩ := ((run_counters _ _ 0).2.2.2.2 dropped).2 host
  refine ⟨host, dropped, releases, liveBytes, ((run_counters _ _ 1).2.2.2.2 dropped).1, ?_⟩
  decide +kernel

end Session

end TypedMemory
