import Mathlib.Logic.Relation
import TypedMemory.Proofs.Dealing

/-!
# Reachable worlds

A step of a session changes the world in one of a few ways. What holds in a fresh
world and survives each of these moves holds after every session, in every world
that a session reaches (`Session.run_reachable`). No move takes anything back that
providers and caches rely on: a later world extends an earlier one
(`World.Follows.extends`).
-/

namespace TypedMemory

variable {P : Platform}

/-- The accelerator is reached through the library that the registry knows. -/
theorem Registry.resolve_accelerator {registry : Registry} {descriptor : Descriptor}
    (resolved : registry.resolve .accelerator = .ok descriptor) :
    ∃ path, registry.library = some path ∧
      descriptor = ⟨.accelerator, .library path registry.stem⟩ := by
  unfold resolve at resolved
  dsimp only at resolved
  split at resolved
  · cases resolved
  · next path known =>
      split at resolved
      · cases resolved
      · cases resolved
        exact ⟨path, known, rfl⟩

/-- The sources that allocators have: host memory, and libraries for the
accelerator from some of the caches. -/
def Source.Within (caches : Nat → Prop) : Source → Prop
  | .host => True
  | .library route cache => route.backend = .accelerator ∧ caches cache

namespace World

/-- The world without a buffer, whose block has an owner less. -/
def part (world : World P) (buffer number : Nat) : World P :=
  { world.modifyBlock number fun block => { block with owners := block.owners - 1 } with
    buffers := world.buffers.filter fun live => live.number ≠ buffer }

/-- The world with another buffer, whose block has an owner more. -/
def share (world : World P) (number : Nat) : World P :=
  { world.modifyBlock number fun block => { block with owners := block.owners + 1 } with
    buffers := world.buffers ++ [⟨world.nextBuffer, number⟩]
    nextBuffer := world.nextBuffer + 1 }

/-- The ways in which a world changes. -/
inductive Move (caches : Nat → Prop) : World P → World P → Prop
  | drift (world : World P) (state : P.State) : Move caches world (world.drift state)
  | provide (world : World P) (source : Source) (allowed : source.Within caches) :
      Move caches world (world.addProvider source).2
  /-- A provider has no memory. -/
  | refuse {world after : World P} {number : Nat} {type : ElementType} {length : UInt64}
      {error : Error} (known : number < world.nextProvider)
      (asked : world.request number type length = (.error error, after)) :
      Move caches world after
  /-- A provider grants the memory of a new block. -/
  | grant {world after : World P} {number address : Nat} {type : ElementType} {length : UInt64}
      (known : number < world.nextProvider) (nonempty : length ≠ 0)
      (asked : world.request number type length = (.ok address, after)) :
      Move caches world
        ((after.addBlock { provider := number, type, address, length }).2.enter
          (.granted after.blocks.length number type address length))
  /-- A provider could not grant memory. -/
  | unprepared {world after : World P} {number : Nat} {type : ElementType} {error : Error}
      (known : number < world.nextProvider)
      (asked : world.prepare number type = (.error error, after)) : Move caches world after
  /-- A provider could grant memory, and a block is made that needs none. -/
  | prepared {world after : World P} {number : Nat} {type : ElementType}
      (known : number < world.nextProvider)
      (asked : world.prepare number type = (.ok (), after)) :
      Move caches world
        (after.addBlock { provider := number, type, address := type.alignment, length := 0 }).2
  | share {world : World P} {buffer number : Nat}
      (owned : world.blockNumber? buffer = some number) : Move caches world (world.share number)
  /-- A buffer is dropped whose block has other owners. -/
  | part {world : World P} {buffer number : Nat}
      (owned : world.blockNumber? buffer = some number)
      (others : ∀ block, world.blocks[number]? = some block → block.owners - 1 ≠ 0) :
      Move caches world (world.part buffer number)
  /-- The last owner of a block is dropped. -/
  | retire {world : World P} {buffer number : Nat} {block : Block}
      (owned : world.blockNumber? buffer = some number)
      (present : world.blocks[number]? = some block) (last : block.owners - 1 = 0) :
      Move caches world
        ((world.part buffer number).retire number { block with owners := block.owners - 1 })
  | write {world : World P} {number : Nat} (there : number < world.blocks.length) (index : Nat)
      (value : Scalar) : Move caches world (world.modifyBlock number (·.write index value))

/-- The worlds that moves lead to. -/
inductive Reachable (caches : Nat → Prop) : World P → Prop
  | fresh (state : P.State) : Reachable caches (.fresh state)
  | move {before after : World P} (reachable : Reachable caches before)
      (moved : before.Move caches after) : Reachable caches after

variable {caches : Nat → Prop}

/-- What a request comes to, said of its answer and the world that it leaves. -/
theorem requested_of {world after : World P} {number : Nat} {type : ElementType}
    {length : UInt64} {answer : Except Error Nat}
    (asked : world.request number type length = (answer, after)) :
    world.Touches number after ∧ world.Requested number type length answer after := by
  have requested := world.request_requested number type length
  rwa [asked] at requested

/-- What making sure that blocks could be had comes to, said of the world that it leaves. -/
theorem prepared_of {world after : World P} {number : Nat} {type : ElementType}
    {answer : Except Error Unit} (asked : world.prepare number type = (answer, after)) :
    world.Touches number after ∧
      (after.providers number).stats = (world.providers number).stats ∧
      after.outside.dealings = world.outside.dealings := by
  have prepared := world.prepare_touches number type
  rwa [asked] at prepared

/-- Obtaining a buffer is a move: one of four, by whether the buffer has elements and whether
the provider can serve it. -/
theorem obtainBuffer_move (world : World P) {number : Nat} (type : ElementType)
    (length : UInt64) (known : number < world.nextProvider) :
    world.Move caches (world.obtainBuffer number type length).2 := by
  unfold obtainBuffer
  by_cases empty : length = 0
  · subst empty
    simp only [↓reduceIte]
    rcases asked : world.prepare number type with ⟨error | _, after⟩
    · exact .unprepared known asked
    · exact .prepared known asked
  · simp only [empty, ↓reduceIte]
    rcases asked : world.request number type length with ⟨error | address, after⟩
    · exact .refuse known asked
    · exact .grant known empty asked

/-- Dropping the last owner of a block retires the block. -/
theorem drop_last {world : World P} {buffer number : Nat} {block : Block}
    (owned : world.blockNumber? buffer = some number)
    (present : world.blocks[number]? = some block) (last : block.owners - 1 = 0) :
    world.drop buffer =
      (world.part buffer number).retire number { block with owners := block.owners - 1 } := by
  unfold drop
  simp only [owned, modifyBlock, List.getElem?_modify_eq, present]
  exact if_pos last

/-- Dropping a buffer whose block has other owners only takes an owner away. -/
theorem drop_shared {world : World P} {buffer number : Nat}
    (owned : world.blockNumber? buffer = some number)
    (others : ∀ block, world.blocks[number]? = some block → block.owners - 1 ≠ 0) :
    world.drop buffer = world.part buffer number := by
  unfold drop
  cases present : world.blocks[number]? with
  | none =>
      simp only [owned, modifyBlock, List.getElem?_modify_eq, present]
      rfl
  | some block =>
      simp only [owned, modifyBlock, List.getElem?_modify_eq, present]
      exact if_neg (others block present)

/-- Dropping what is not there does nothing. -/
theorem drop_absent {world : World P} {buffer : Nat} (absent : world.blockNumber? buffer = none) :
    world.drop buffer = world := by
  unfold drop
  rw [absent]

/-- Dropping a buffer does nothing if there is no such buffer, takes an owner from
its block, or retires the block. -/
theorem drop_cases (world : World P) (buffer : Nat) :
    (world.blockNumber? buffer = none ∧ world.drop buffer = world) ∨
    (∃ number, world.blockNumber? buffer = some number ∧
      (∀ block, world.blocks[number]? = some block → block.owners - 1 ≠ 0) ∧
      world.drop buffer = world.part buffer number) ∨
    ∃ number block, world.blockNumber? buffer = some number ∧
      world.blocks[number]? = some block ∧ block.owners - 1 = 0 ∧
      world.drop buffer =
        (world.part buffer number).retire number { block with owners := block.owners - 1 } := by
  cases owned : world.blockNumber? buffer with
  | none => exact .inl ⟨rfl, drop_absent owned⟩
  | some number =>
      right
      by_cases last : ∃ block, world.blocks[number]? = some block ∧ block.owners - 1 = 0
      · obtain ⟨block, present, last⟩ := last
        exact .inr ⟨number, block, rfl, present, last, drop_last owned present last⟩
      · have others (block : Block) (present : world.blocks[number]? = some block) :
            block.owners - 1 ≠ 0 :=
          fun zero => last ⟨block, present, zero⟩
        exact .inl ⟨number, rfl, others, drop_shared owned others⟩

/-- Dropping a buffer does nothing or is a move. -/
theorem drop_move (world : World P) (buffer : Nat) :
    world.drop buffer = world ∨ world.Move caches (world.drop buffer) := by
  rcases world.drop_cases buffer with
    ⟨_, same⟩ | ⟨number, owned, others, equation⟩ | ⟨number, block, owned, present, last, equation⟩
  · exact .inl same
  · rw [equation]
    exact .inr (.part owned others)
  · rw [equation]
    exact .inr (.retire owned present last)

/-- A clone is one more owner of the block, if the buffer is there. -/
theorem clone?_eq (world : World P) (buffer : Nat) :
    world.clone? buffer =
      (world.blockNumber? buffer).map fun number => (world.nextBuffer, world.share number) := rfl

/-- A write that takes effect changes one block that exists. -/
theorem write?_eq {world after : World P} {buffer index : Nat} {value : Scalar}
    (written : world.write? buffer index value = some after) :
    ∃ number, number < world.blocks.length ∧
      after = world.modifyBlock number (·.write index value) := by
  unfold write? at written
  split at written
  · cases written
  · next number _ =>
      split at written
      · cases written
      · next present =>
          split at written
          · cases written
            exact ⟨number, (List.getElem?_eq_some_iff.mp present).1, rfl⟩
          · cases written

/-- How the answer to a return settles a block. -/
def outcomeOf : Except Error Unit → ReleaseOutcome
  | .ok _ => .freed
  | .error _ => .failed

/-- The world with the outcome of a block's release put on record. -/
def settle (world : World P) (number : Nat) (outcome : ReleaseOutcome) : World P :=
  world.modifyBlock number fun block => { block with outcome := some outcome }

/-- Blocks and reports play no part in what a return comes to. -/
theorem Returned.congr {world after later : World P} {number address : Nat} {type : ElementType}
    {length : UInt64} {answer : Except Error Unit}
    (returned : world.Returned number type address length answer after)
    (providers : later.providers = after.providers) (same : later.caches = after.caches)
    (dealings : later.outside.dealings = after.outside.dealings) :
    world.Returned number type address length answer later := by
  cases returned with
  | unsized source sized none => exact .unsized source sized (dealings.trans none)
  | unreached source stats none =>
      exact .unreached source (by rw [providers, stats]) (dealings.trans none)
  | hosted source stats none =>
      exact .hosted source (by rw [providers, stats]) (dealings.trans none)
  | fetched offers stats called =>
      exact .fetched ⟨providers ▸ offers.source, offers.symbol_eq, same ▸ offers.offered⟩
        (by rw [providers, stats]) (dealings.trans called)

/-- Retiring a block returns nothing if the block has no elements; else it returns
the block to its provider, and the answer settles the block. -/
theorem retire_cases (world : World P) (number : Nat) (block : Block) :
    (block.isEmpty = true ∧
      (world.settle number .empty).Touches block.provider (world.retire number block) ∧
      ((world.retire number block).providers block.provider).stats =
        (world.providers block.provider).stats ∧
      (world.retire number block).outside.dealings = world.outside.dealings) ∨
    (block.isEmpty = false ∧ ∃ answer,
      (world.settle number (outcomeOf answer)).Touches block.provider
        (world.retire number block) ∧
      (world.enter (.returned number block.provider block.type block.address block.length)).Returned
        block.provider block.type block.address block.length answer
        (world.retire number block)) := by
  unfold retire release
  cases empty : block.isEmpty with
  | true =>
      left
      refine ⟨rfl, ⟨rfl, rfl, rfl, rfl, fun _ => rfl, fun _ _ => rfl, fun _ => .refl _⟩,
        rfl, ?_⟩
      exact Outside.dealings_report ..
  | false =>
      right
      refine ⟨rfl, ?_⟩
      have returned := (world.enter (.returned number block.provider block.type block.address
        block.length)).giveBack_returned block.provider block.type block.address block.length
      rcases asked : (world.enter (.returned number block.provider block.type block.address
        block.length)).giveBack block.provider block.type block.address block.length with
        ⟨error | _, after⟩
      · rw [asked] at returned
        obtain ⟨touches, returned⟩ := returned
        simp only [Bool.false_eq_true, ↓reduceIte, asked]
        refine ⟨.error error, ?_, returned.congr rfl rfl (Outside.dealings_report ..)⟩
        exact ⟨congrArg (List.modify · number _) touches.blocks, touches.buffers,
          touches.nextBuffer, touches.nextProvider, touches.source, touches.stats, touches.kept⟩
      · rw [asked] at returned
        obtain ⟨touches, returned⟩ := returned
        simp only [Bool.false_eq_true, ↓reduceIte, asked, reduceCtorEq]
        refine ⟨.ok (), ?_, returned.congr rfl rfl (Outside.dealings_report ..)⟩
        exact ⟨congrArg (List.modify · number _) touches.blocks, touches.buffers,
          touches.nextBuffer, touches.nextProvider, touches.source, touches.stats, touches.kept⟩

/-- Blocks stay on record. -/
theorem drop_length (world : World P) (buffer : Nat) :
    (world.drop buffer).blocks.length = world.blocks.length := by
  rcases world.drop_cases buffer with
    ⟨_, equation⟩ | ⟨number, _, _, equation⟩ | ⟨number, block, _, _, _, equation⟩ <;> rw [equation]
  · exact List.length_modify ..
  · rcases (world.part buffer number).retire_cases number { block with owners := block.owners - 1 }
      with ⟨_, touches, _⟩ | ⟨_, _, touches, _⟩ <;>
      rw [touches.blocks] <;>
      exact (List.length_modify ..).trans (List.length_modify ..)

/-- What a later world has of an earlier one: its providers, with their sources, and
the libraries that were cached. -/
structure Extends (before after : World P) : Prop where
  nextProvider : before.nextProvider ≤ after.nextProvider
  source : ∀ number, number < before.nextProvider →
    (after.providers number).source = (before.providers number).source
  kept : ∀ cache, (before.caches cache).Keeps (after.caches cache)

theorem Extends.refl (world : World P) : world.Extends world :=
  ⟨Nat.le_refl _, fun _ _ => rfl, fun _ => .refl _⟩

/-- What a world has of an earlier one it has of those before that. -/
theorem Extends.trans {first second third : World P} (early : first.Extends second)
    (late : second.Extends third) : first.Extends third where
  nextProvider := Nat.le_trans early.nextProvider late.nextProvider
  source number known :=
    (late.source number (Nat.lt_of_lt_of_le known early.nextProvider)).trans
      (early.source number known)
  kept cache backend loaded held := late.kept cache backend loaded (early.kept cache _ _ held)

/-- A dealing with a provider takes nothing back. -/
theorem Touches.extends {number : Nat} {before after : World P}
    (touches : before.Touches number after) : before.Extends after :=
  ⟨Nat.le_of_eq touches.nextProvider.symm, fun other _ => touches.source other, touches.kept⟩

/-- No move takes anything back. -/
theorem Move.extends {before after : World P} (moved : before.Move caches after) :
    before.Extends after := by
  cases moved with
  | provide source _ =>
      refine ⟨Nat.le_succ _, ?_, fun _ => .refl _⟩
      intro number known
      exact congrArg Provider.source (replace_other _ _ (Nat.ne_of_lt known))
  | refuse _ asked => exact (requested_of asked).1.extends
  | grant _ _ asked =>
      obtain ⟨grown, source, kept⟩ := (requested_of asked).1.extends
      exact ⟨grown, source, kept⟩
  | unprepared _ asked => exact (prepared_of asked).1.extends
  | prepared _ asked =>
      obtain ⟨grown, source, kept⟩ := (prepared_of asked).1.extends
      exact ⟨grown, source, kept⟩
  | @retire buffer number block _ _ _ =>
      rcases (before.part buffer number).retire_cases number
        { block with owners := block.owners - 1 } with ⟨_, touches, _⟩ | ⟨_, _, touches, _⟩ <;>
        obtain ⟨grown, source, kept⟩ := touches.extends <;>
        exact ⟨grown, source, kept⟩
  | drift | share | part | write =>
      exact ⟨Nat.le_refl _, fun _ _ => rfl, fun _ => .refl _⟩

/-- One world comes after another by moves. -/
abbrev Follows (caches : Nat → Prop) : World P → World P → Prop :=
  Relation.ReflTransGen (Move caches)

/-- Nothing is taken back over any number of moves. -/
theorem Follows.extends {before after : World P} (follows : before.Follows caches after) :
    before.Extends after := by
  induction follows with
  | refl => exact .refl before
  | tail _ moved ih => exact ih.trans moved.extends

/-- What moves lead to from a reachable world is reachable. -/
theorem Reachable.follows {before after : World P} (reachable : before.Reachable caches)
    (follows : before.Follows caches after) : after.Reachable caches := by
  induction follows with
  | refl => exact reachable
  | tail _ moved ih => exact ih.move moved

end World

namespace Session

variable {caches : Nat → Prop}

/-- The providers of an allocator have been added to the world. -/
structure Known (world : World P) (allocator : Allocator) : Prop where
  host : allocator.host < world.nextProvider
  accelerator : ∀ number, allocator.accelerator = some number → number < world.nextProvider

/-- Providers that have been added stay. -/
theorem Known.mono {before after : World P} {allocator : Allocator}
    (known : Known before allocator) (grown : before.nextProvider ≤ after.nextProvider) :
    Known after allocator :=
  ⟨Nat.lt_of_lt_of_le known.host grown,
    fun number held => Nat.lt_of_lt_of_le (known.accelerator number held) grown⟩

/-- The provider that serves a backend has been added. -/
theorem Known.provider {world : World P} {allocator : Allocator} (known : Known world allocator)
    {backend : Backend} {number : Nat} (served : allocator.provider backend = .ok number) :
    number < world.nextProvider := by
  unfold Allocator.provider at served
  split at served
  · cases served
  · split at served
    · cases served
      exact known.host
    · split at served
      · next held =>
          cases served
          exact known.accelerator _ held
      · cases served

/-- What a session keeps: its world is reachable, and so are the providers of its
allocators. -/
structure Sound (caches : Nat → Prop) (session : Session P) : Prop where
  reachable : session.world.Reachable caches
  known : ∀ number allocator, session.allocators number = some allocator →
    Known session.world allocator

/-- A request does nothing, if it is turned down before a provider is asked, or is a move. -/
theorem allocate_move {world : World P} {allocator : Allocator} (known : Known world allocator)
    (length : Int64) (type : ElementType) (backend : Backend) :
    (world.allocate allocator length type backend).2 = world ∨
      world.Move caches (world.allocate allocator length type backend).2 := by
  unfold World.allocate
  split
  · exact .inl rfl
  · split
    · exact .inl rfl
    · next number served =>
        exact .inr (world.obtainBuffer_move type _ (known.provider served))

/-- So does a request by text, which may also be turned down because of the text. -/
theorem allocateNamed_move {world : World P} {allocator : Allocator}
    (known : Known world allocator) (length : Int64) (type backend : String) :
    (world.allocateNamed allocator length type backend).2 = world ∨
      world.Move caches (world.allocateNamed allocator length type backend).2 := by
  unfold World.allocateNamed
  split
  · exact .inl rfl
  · split
    · exact .inl rfl
    · exact allocate_move known length _ _

/-- Making an allocator adds a provider of host memory and, if the registry knows a
library, a provider of accelerator memory. -/
theorem addAllocator_cases (world : World P) (registry : Registry) (cache : Nat) :
    (∃ error, registry.resolve .accelerator = .error error ∧
      world.addAllocator registry cache =
        (⟨registry, world.nextProvider, none⟩, (world.addProvider .host).2)) ∨
    (∃ path, registry.resolve .accelerator = .ok ⟨.accelerator, .library path registry.stem⟩ ∧
      world.addAllocator registry cache =
        (⟨registry, world.nextProvider, some (world.nextProvider + 1)⟩,
          ((world.addProvider .host).2.addProvider
            (.library ⟨.accelerator, path, registry.stem⟩ cache)).2)) := by
  unfold World.addAllocator
  cases resolved : registry.resolve .accelerator with
  | error error => exact .inl ⟨error, rfl, rfl⟩
  | ok descriptor =>
      obtain ⟨path, _, rfl⟩ := Registry.resolve_accelerator resolved
      exact .inr ⟨path, rfl, rfl⟩

/-- An allocator is made by adding a provider or two, which it then knows. -/
theorem addAllocator_follows (world : World P) (registry : Registry) {cache : Nat}
    (allowed : caches cache) :
    world.Follows caches (world.addAllocator registry cache).2 ∧
      Known (world.addAllocator registry cache).2 (world.addAllocator registry cache).1 := by
  have hosted : world.Follows caches (world.addProvider .host).2 :=
    .single (.provide world .host trivial)
  rcases addAllocator_cases world registry cache with ⟨_, _, equation⟩ | ⟨path, _, equation⟩
  · rw [equation]
    exact ⟨hosted, Nat.lt_succ_self _, nofun⟩
  · rw [equation]
    refine ⟨hosted.tail (.provide _ _ ⟨rfl, allowed⟩), ?_, ?_⟩
    · exact Nat.lt_add_of_pos_right (Nat.succ_pos 1)
    · rintro _ ⟨⟩
      exact Nat.lt_succ_self _

/-- A new allocator serves the host from host memory, and the accelerator through a
library from its cache. -/
theorem addAllocator_serves {world : World P} {registry : Registry} {cache provider : Nat}
    {backend : Backend}
    (served : (world.addAllocator registry cache).1.provider backend = .ok provider) :
    (backend = .host ∧
      ((world.addAllocator registry cache).2.providers provider).source = .host) ∨
    (backend = .accelerator ∧ ∃ route : Route, route.backend = .accelerator ∧
      ((world.addAllocator registry cache).2.providers provider).source =
        .library route cache) := by
  rcases addAllocator_cases world registry cache with
    ⟨_, resolved, equation⟩ | ⟨path, resolved, equation⟩ <;>
    rw [equation] at served ⊢ <;>
    unfold Allocator.provider at served <;>
    cases backend
  · cases served
    exact .inl ⟨rfl, congrArg Provider.source (replace_same ..)⟩
  · rw [resolved] at served
    cases served
  · cases served
    refine .inl ⟨rfl, ?_⟩
    refine congrArg Provider.source ((replace_other _ _ ?_).trans (replace_same ..))
    exact Nat.ne_of_lt (Nat.lt_succ_self _)
  · rw [resolved] at served
    cases served
    exact .inr ⟨rfl, _, rfl, congrArg Provider.source (replace_same ..)⟩

/-- A step leads to its world by moves. -/
theorem step_follows {session : Session P} {taken : Step P}
    (known : ∀ number allocator, session.allocators number = some allocator →
      Known session.world allocator)
    (allowed : taken.Within caches) :
    session.world.Follows caches (session.step taken).world := by
  cases taken with
  | drift state => exact .single (.drift _ state)
  | make registry cache => exact (addAllocator_follows session.world registry allowed).1
  | discard number => exact .refl
  | allocate number length type backend =>
      dsimp only [Session.step]
      split
      · exact .refl
      · next allocator held =>
          rcases allocate_move (known number allocator held) length type backend with
            same | moved
          · rw [same]
            exact .refl
          · exact .single moved
  | allocateNamed number length type backend =>
      dsimp only [Session.step]
      split
      · exact .refl
      · next allocator held =>
          rcases allocateNamed_move (known number allocator held) length type backend with
            same | moved
          · rw [same]
            exact .refl
          · exact .single moved
  | clone buffer =>
      dsimp only [Session.step]
      rw [World.clone?_eq]
      cases owned : session.world.blockNumber? buffer with
      | none => exact .refl
      | some number => exact .single (.share owned)
  | drop buffer =>
      dsimp only [Session.step]
      rcases session.world.drop_move buffer with same | moved
      · rw [same]
        exact .refl
      · exact .single moved
  | write buffer index value =>
      dsimp only [Session.step]
      split
      · exact .refl
      · next world written =>
          obtain ⟨number, there, rfl⟩ := World.write?_eq written
          exact .single (.write there index value)

/-- An allocator that is there after a step was there before, or was made by the
step, under the next number. -/
theorem allocators_step {session : Session P} {taken : Step P} {number : Nat}
    {allocator : Allocator} (held : (session.step taken).allocators number = some allocator) :
    session.allocators number = some allocator ∨
      number = session.nextAllocator ∧ ∃ registry cache, taken = .make registry cache ∧
        allocator = (session.world.addAllocator registry cache).1 := by
  cases taken with
  | make registry cache =>
      by_cases new : number = session.nextAllocator
      · subst new
        cases (replace_same ..).symm.trans held
        exact .inr ⟨rfl, registry, cache, rfl, rfl⟩
      · exact .inl ((replace_other _ _ new).symm.trans held)
  | discard gone =>
      by_cases same : number = gone
      · subst same
        cases (replace_same ..).symm.trans held
      · exact .inl ((replace_other _ _ same).symm.trans held)
  | drift | drop => exact .inl held
  | allocate | allocateNamed | clone | write =>
      dsimp only [Session.step] at held
      split at held <;> exact .inl held

/-- A step keeps a session sound if the allocator that it makes, if any, takes its library from
one of the caches. -/
theorem Sound.step {session : Session P} (sound : session.Sound caches) {taken : Step P}
    (allowed : taken.Within caches) : (session.step taken).Sound caches := by
  have follows := step_follows sound.known allowed
  refine ⟨sound.reachable.follows follows, ?_⟩
  intro number allocator held
  rcases allocators_step held with older | ⟨_, registry, cache, rfl, rfl⟩
  · exact (sound.known number allocator older).mono follows.extends.nextProvider
  · exact (addAllocator_follows session.world registry allowed).2

/-- A run of such steps keeps a session sound. -/
theorem Sound.run {session : Session P} (sound : session.Sound caches) (steps : List (Step P))
    (allowed : ∀ step ∈ steps, step.Within caches) : (session.run steps).Sound caches := by
  induction steps generalizing session with
  | nil => exact sound
  | cons step steps ih =>
      exact ih (sound.step (allowed step List.mem_cons_self))
        fun other member => allowed other (List.mem_cons_of_mem _ member)

/-- A session starts out sound. -/
theorem start_sound (state : P.State) : (start state).Sound caches where
  reachable := .fresh state
  known _ allocator held := by
    change none = some allocator at held
    cases held

/-- Every session leads to a reachable world. -/
theorem run_reachable (state : P.State) (steps : List (Step P))
    (allowed : ∀ step ∈ steps, step.Within caches) :
    ((start state).run steps).world.Reachable caches :=
  ((start_sound state).run steps allowed).reachable

/-- If it does not matter which caches libraries come from, every session will do. -/
theorem run_reachable_any (state : P.State) (steps : List (Step P)) :
    ((start state).run steps).world.Reachable fun _ => True :=
  run_reachable state steps fun step _ => by cases step <;> trivial

end Session

end TypedMemory
