import TypedMemory.Proofs.Conservation
import TypedMemory.Proofs.Release

/-!
# The order of drops

How a block ends is settled before its last buffer is dropped, by its length and by
the library that is cached for its provider. A drop makes one block end as it was
bound to, and leaves the prospects of all others alone (`World.Reachable.drop_winds`).
So whatever the order in which all buffers are dropped, the same blocks are released,
the same ones leak, and counters and calls come out alike
(`Session.run_drops_in_any_order`).
-/

namespace TypedMemory

variable {P : Platform}

/-- The release that an entry tells of, if it tells of one: the name of the entry
point that was called, and the address it was called with. -/
def Entry.dealloc? : Entry P → Option (String × Nat)
  | .called _ symbol (.dealloc address) => some (symbol, address)
  | _ => none

namespace Outside

/-- All calls of entry points that release, in order. -/
def deallocs (outside : Outside P) : List (String × Nat) :=
  outside.journal.filterMap Entry.dealloc?

/-- The calls that released are read off the dealings. -/
theorem deallocs_eq (outside : Outside P) :
    outside.deallocs = outside.dealings.filterMap Entry.dealloc? := by
  apply filterMap_journal
  intro entry other
  cases entry with
  | called => cases other
  | _ => rfl

/-- How often an address was released can be counted in the journal. -/
theorem count_deallocs (outside : Outside P) (symbol : String) (address : Nat) :
    outside.deallocs.count (symbol, address) =
      outside.journal.countP (Entry.isDeallocAt symbol address) := by
  unfold deallocs List.count
  rw [List.countP_filterMap]
  congr 1
  funext entry
  rw [Bool.eq_iff_iff]
  rcases entry with _ | _ | ⟨_, _, _ | _⟩ | _ | _ <;>
    simp [Entry.dealloc?, Entry.isDeallocAt]

end Outside

/-- The block after its release, which went as given. -/
def Block.closed (block : Block) (outcome : ReleaseOutcome) : Block :=
  { block with owners := 0, outcome := some outcome }

namespace World

variable {caches : Nat → Prop}

/-- How a block ended, or will end when its last buffer is dropped. -/
def Ends (world : World P) (block : Block) (outcome : ReleaseOutcome) : Prop :=
  block.outcome = some outcome ∨
    block.outcome = none ∧ (outcome = .empty ↔ block.length = 0) ∧
      (outcome = .failed ↔ block.length ≠ 0 ∧ world.Unreturnable block)

/-- A block has one end. -/
theorem Ends.unique {world : World P} {block : Block} {outcome outcome' : ReleaseOutcome}
    (ends : world.Ends block outcome) (ends' : world.Ends block outcome') :
    outcome = outcome' := by
  rcases ends with settled | ⟨pending, empty, failed⟩ <;>
    rcases ends' with settled' | ⟨pending', empty', failed'⟩
  · exact Option.some.inj (settled.symm.trans settled')
  · cases settled.symm.trans pending'
  · cases settled'.symm.trans pending
  · rw [← empty'] at empty
    rw [← failed'] at failed
    cases outcome <;> cases outcome' <;> simp at empty failed ⊢

/-- If look-ups are fixed, whether a block can be released depends on sources and
caches only. -/
theorem unreturnable_congr (fixed : P.FixedLookUps) {before after : World P} {block later : Block}
    (source : (after.providers block.provider).source = (before.providers block.provider).source)
    (same : after.caches = before.caches) (provider : later.provider = block.provider)
    (type : later.type = block.type) :
    after.Unreturnable later ↔ before.Unreturnable block := by
  unfold Unreturnable LoadedLibrary.Lacks
  simp only [provider, type, source, same, fixed _ _ after.outside.state before.outside.state]

/-- A world to which another one is wound down: caches and sources stay, no loader is
asked, and every block ends as it was bound to. -/
structure Winds (before after : World P) : Prop where
  quiet : before.Quiet after
  source : ∀ number, (after.providers number).source = (before.providers number).source
  called : ∃ made, after.outside.deallocs = before.outside.deallocs ++ made
  length : after.blocks.length = before.blocks.length
  ends : ∀ (number : Nat) block later, before.blocks[number]? = some block →
    after.blocks[number]? = some later →
      (∀ outcome, later.closed outcome = block.closed outcome) ∧
      ∀ outcome, after.Ends later outcome → before.Ends block outcome

theorem Winds.refl (world : World P) : world.Winds world where
  quiet := ⟨rfl, rfl⟩
  source _ := rfl
  called := ⟨[], (List.append_nil _).symm⟩
  length := rfl
  ends number block later present present' := by
    cases present.symm.trans present'
    exact ⟨fun _ => rfl, fun _ => id⟩

/-- A world that is wound down to a second is wound down to where the second is. -/
theorem Winds.trans {first second third : World P} (early : first.Winds second)
    (late : second.Winds third) : first.Winds third where
  quiet := ⟨late.quiet.openings.trans early.quiet.openings,
    late.quiet.caches.trans early.quiet.caches⟩
  source number := (late.source number).trans (early.source number)
  called := by
    obtain ⟨made, called⟩ := early.called
    obtain ⟨more, again⟩ := late.called
    exact ⟨made ++ more, by rw [again, called, List.append_assoc]⟩
  length := late.length.trans early.length
  ends number block later present present' := by
    have there := (List.getElem?_eq_some_iff.mp present).1
    rw [← early.length] at there
    obtain ⟨same, before⟩ :=
      early.ends number block _ present (List.getElem?_eq_getElem there)
    obtain ⟨same', after⟩ :=
      late.ends number _ later (List.getElem?_eq_getElem there) present'
    exact ⟨fun outcome => (same' outcome).trans (same outcome),
      fun outcome ends => before outcome (after outcome ends)⟩

/-- A drop leaves every provider its source. -/
theorem drop_source (world : World P) (buffer number : Nat) :
    ((world.drop buffer).providers number).source = (world.providers number).source := by
  rcases world.drop_cases buffer with
    ⟨_, same⟩ | ⟨block, _, _, equation⟩ | ⟨gone, block, _, _, _, equation⟩
  · rw [same]
  · rw [equation]
    rfl
  · rw [equation]
    rcases (world.part buffer gone).retire_cases gone
      { block with owners := block.owners - 1 } with ⟨_, touches, _⟩ | ⟨_, _, touches, _⟩ <;>
      exact touches.source number

/-- A drop only adds to the calls that released. -/
theorem drop_deallocs (world : World P) (buffer : Nat) :
    ∃ made, (world.drop buffer).outside.deallocs = world.outside.deallocs ++ made := by
  have asks : Asks (fun _ => True) world (world.drop buffer) := drop_asks world buffer
  obtain ⟨made, dealings, _⟩ := asks
  refine ⟨made.filterMap Entry.dealloc?, ?_⟩
  rw [Outside.deallocs_eq, Outside.deallocs_eq, dealings, List.filterMap_append]

/-- A buffer that is dropped is gone, and all others stay. -/
theorem drop_buffers (world : World P) (buffer : Nat) :
    (world.drop buffer).buffers = world.buffers.filter fun live => live.number ≠ buffer := by
  unfold drop
  cases owned : world.blockNumber? buffer with
  | none =>
      have absent := List.find?_eq_none.mp (Option.map_eq_none_iff.mp owned)
      refine (List.filter_eq_self.mpr ?_).symm
      intro live member
      simpa using absent live member
  | some number =>
      dsimp only
      split
      · rfl
      · next block _ =>
          split
          · rcases (world.part buffer number).retire_cases number block with
              ⟨_, touches, _⟩ | ⟨_, _, touches, _⟩ <;>
              exact touches.buffers
          · rfl

/-- A drop makes the block of the buffer end, if it was the last one, as the block was
bound to, and no other. -/
theorem Reachable.drop_winds {world : World P} (reachable : world.Reachable caches)
    (fixed : P.FixedLookUps) (buffer : Nat) : world.Winds (world.drop buffer) := by
  have source := world.drop_source buffer
  have called := world.drop_deallocs buffer
  have length := world.drop_length buffer
  rcases world.drop_cases buffer with
    ⟨_, same⟩ | ⟨number, owned, others, equation⟩ |
      ⟨number, block, owned, present, last, equation⟩
  · rw [same]
    exact .refl world
  · rw [equation] at source called length ⊢
    refine ⟨⟨rfl, rfl⟩, source, called, length, ?_⟩
    intro other old later old' present
    rcases getElem?_modify_cases present with ⟨_, older⟩ | ⟨before, rfl, older, rfl⟩
    · cases old'.symm.trans older
      exact ⟨fun _ => rfl, fun _ => id⟩
    · cases old'.symm.trans older
      exact ⟨fun _ => rfl, fun _ => id⟩
  · obtain ⟨outcome, settles, blocks⟩ := reachable.drop_retires owned present last
    obtain ⟨_, found, _, alive⟩ := reachable.owned.alive owned
    cases present.symm.trans found
    have modified := blocks.trans (List.modify_modify_eq ..)
    refine ⟨settles.quiet, source, called, length, ?_⟩
    intro other old later old' present'
    rw [modified] at present'
    rcases getElem?_modify_cases present' with ⟨_, older⟩ | ⟨before, rfl, older, rfl⟩
    · cases old'.symm.trans older
      refine ⟨fun _ => rfl, fun outcome ends => ?_⟩
      unfold Ends at ends ⊢
      rwa [unreturnable_congr fixed (source _) settles.quiet.caches rfl rfl] at ends
    · cases old'.symm.trans older
      cases present.symm.trans older
      refine ⟨fun _ => rfl, ?_⟩
      rintro other (settled | ⟨unsettled, _⟩)
      · cases settled
        exact .inr ⟨alive, settles.empty, settles.failed⟩
      · cases unsettled

/-- Drops lead to reachable worlds. -/
theorem Reachable.drop {world : World P} (reachable : world.Reachable caches) (buffer : Nat) :
    (world.drop buffer).Reachable caches := by
  rcases world.drop_move buffer with same | moved
  · rwa [same]
  · exact reachable.move moved

/-- Any drops wind a world down. -/
theorem Reachable.drops {world : World P} (reachable : world.Reachable caches)
    (fixed : P.FixedLookUps) (buffers : List Nat) :
    (buffers.foldl World.drop world).Reachable caches ∧
      world.Winds (buffers.foldl World.drop world) := by
  induction buffers generalizing world with
  | nil => exact ⟨reachable, .refl world⟩
  | cons buffer buffers ih =>
      obtain ⟨reached, winds⟩ := ih (reachable.drop buffer)
      exact ⟨reached, (reachable.drop_winds fixed buffer).trans winds⟩

/-- What is left after some drops is the buffers that were not dropped. -/
theorem drops_buffers (world : World P) (buffers : List Nat) :
    (buffers.foldl World.drop world).buffers =
      world.buffers.filter fun live => live.number ∉ buffers := by
  induction buffers generalizing world with
  | nil => simp
  | cons buffer buffers ih =>
      rw [List.foldl_cons, ih, drop_buffers, List.filter_filter]
      apply List.filter_congr
      intro live _
      simp [Bool.and_comm]

/-- When all buffers are gone, every block is closed, in the only way it could end. -/
theorem Winds.closed {before after : World P} (winds : before.Winds after) (owned : after.Owned)
    (dropped : after.buffers = []) {number : Nat} {block : Block}
    (present : before.blocks[number]? = some block) :
    ∃ outcome, before.Ends block outcome ∧ after.blocks[number]? = some (block.closed outcome) := by
  have there := (List.getElem?_eq_some_iff.mp present).1
  rw [← winds.length] at there
  have present' := List.getElem?_eq_getElem there
  obtain ⟨same, ends⟩ := winds.ends number block _ present present'
  have account := owned.account number _ present'
  have unowned : (after.blocks[number]).owners = 0 := by
    rw [account.owners]
    unfold handles
    rw [dropped]
    rfl
  cases settled : (after.blocks[number]).outcome with
  | none =>
      have alive := account.unsettled.mp settled
      omega
  | some outcome =>
      refine ⟨outcome, ends outcome (.inl settled), ?_⟩
      rw [present', ← same outcome]
      unfold Block.closed
      rw [← settled, ← unowned]

/-- Two worlds to which one is wound down, with all buffers gone, have the same
blocks. -/
theorem Winds.blocks_eq {before one other : World P} (winds : before.Winds one)
    (winds' : before.Winds other) (owned : one.Owned) (owned' : other.Owned)
    (dropped : one.buffers = []) (dropped' : other.buffers = []) :
    one.blocks = other.blocks := by
  apply List.ext_getElem?
  intro number
  cases present : before.blocks[number]? with
  | none =>
      have beyond := List.getElem?_eq_none_iff.mp present
      rw [List.getElem?_eq_none (winds.length ▸ beyond),
        List.getElem?_eq_none (winds'.length ▸ beyond)]
  | some block =>
      obtain ⟨outcome, ends, closed⟩ := winds.closed owned dropped present
      obtain ⟨outcome', ends', closed'⟩ := winds'.closed owned' dropped' present
      rw [closed, closed', ends.unique ends']

/-- Every entry point that was called to release has the name of one that releases. -/
def Named (world : World P) : Prop :=
  ∀ symbol address, (symbol, address) ∈ world.outside.deallocs →
    ∃ stem type, symbol = symbolName stem type .dealloc

/-- Whatever is done, only entry points that release are called to release. -/
theorem Effect.named {before after : World P} (effect : Effect caches before after)
    (named : before.Named) : after.Named := by
  intro symbol address called
  rw [Outside.deallocs_eq] at called
  have known (called : (symbol, address) ∈ before.outside.dealings.filterMap Entry.dealloc?) :
      ∃ stem type, symbol = symbolName stem type .dealloc :=
    named symbol address (before.outside.deallocs_eq ▸ called)
  cases effect with
  | provided => exact known called
  | idle _ _ _ _ dealings =>
      rcases dealings with same | ⟨_, _, _, _, _, _, _, _, made⟩
      · exact known (same ▸ called)
      · rw [made, filterMap_concat] at called
        exact known (by simpa [Entry.dealloc?] using called)
  | granted _ _ _ _ requested _ _ _ _ _ dealings =>
      rw [dealings, filterMap_concat] at called
      cases requested with
      | hosted _ _ _ same =>
          rw [same] at called
          exact known (by simpa [Entry.dealloc?] using called)
      | fetched _ _ _ made =>
          rw [made, filterMap_concat] at called
          exact known (by simpa [Entry.dealloc?] using called)
  | returned _ holding _ _ returned _ _ _ _ dealings =>
      cases returned with
      | unsized _ _ same | unreached _ _ same | hosted _ _ same =>
          rw [same, dealings, filterMap_concat] at called
          exact known (by simpa [Entry.dealloc?] using called)
      | @fetched _ _ _ route _ offers _ made =>
          rw [made, filterMap_concat, dealings, filterMap_concat] at called
          rcases List.mem_append.mp called with older | new
          · exact known (by simpa [Entry.dealloc?] using older)
          · cases List.mem_singleton.mp new
            exact ⟨route.stem, holding.type, offers.symbol_eq⟩

/-- In every reachable world, the entry points that were called to release have names of such.
-/
theorem Reachable.named {world : World P} (reachable : world.Reachable caches) : world.Named := by
  induction reachable with
  | fresh state => exact nofun
  | move earlier moved ih => exact (moved.effect earlier.owned).named ih

/-- Worlds with the same blocks and the same sources made the same releases, in some
order. -/
theorem Reachable.deallocs_perm {one other : World P} (reachable : one.Reachable caches)
    (reachable' : other.Reachable caches) (blocks : one.blocks = other.blocks)
    (source : ∀ number, (one.providers number).source = (other.providers number).source) :
    one.outside.deallocs.Perm other.outside.deallocs := by
  rw [List.perm_iff_count]
  rintro ⟨symbol, address⟩
  by_cases named : ∃ stem type, symbol = symbolName stem type .dealloc
  · obtain ⟨stem, type, rfl⟩ := named
    have under (holding : Holding) :
        one.Under stem type address holding ↔ other.Under stem type address holding :=
      under_congr (source _) stem type address
    have released := reachable.conserved.released stem type address
    have released' := reachable'.conserved.released stem type address
    rw [Outside.count_deallocs, Outside.count_deallocs]
    refine (one.deallocCalls_eq ..).trans (released.trans ?_)
    refine Eq.trans ?_ ((other.deallocCalls_eq ..).trans released').symm
    simp only [under, tally_congr blocks]
  · -- No other name was ever called to release.
    have none (world : World P) (reached : world.Reachable caches) :
        world.outside.deallocs.count (symbol, address) = 0 :=
      List.count_eq_zero.mpr fun called => named (reached.named symbol address called)
    rw [none one reachable, none other reachable']

end World

namespace Session

/-- A run of drops drops one buffer after the other. -/
theorem run_drops (session : Session P) (buffers : List Nat) :
    (session.run (buffers.map .drop)).world = buffers.foldl World.drop session.world := by
  induction buffers generalizing session with
  | nil => rfl
  | cons buffer buffers ih => exact ih (session.step (.drop buffer))

/-- **The order of drops does not matter.** If libraries answer a name always alike,
then after any session and for any two orders in which all its buffers are dropped,
the two final worlds have the same blocks, settled in the same way, the same counters
of every provider and the same caches, with their libraries and loads; no loader was
asked on either way; and the same releases were called, in some order. -/
theorem run_drops_in_any_order (fixed : P.FixedLookUps) (state : P.State) (steps : List (Step P))
    (first second : List Nat)
    (all : first.Perm (((start state).run steps).world.buffers.map Buffer.number))
    (all' : second.Perm (((start state).run steps).world.buffers.map Buffer.number)) :
    let world := ((start state).run steps).world
    let one := (((start state).run steps).run (first.map .drop)).world
    let other := (((start state).run steps).run (second.map .drop)).world
    one.blocks = other.blocks ∧
    (∀ provider, (one.providers provider).stats = (other.providers provider).stats) ∧
    (one.caches = world.caches ∧ other.caches = world.caches) ∧
    (one.outside.openings = world.outside.openings ∧
      other.outside.openings = world.outside.openings) ∧
    ∃ made made', one.outside.deallocs = world.outside.deallocs ++ made ∧
      other.outside.deallocs = world.outside.deallocs ++ made' ∧ made.Perm made' := by
  intro world one other
  have reachable : world.Reachable fun _ => True := run_reachable_any state steps
  have gone (buffers : List Nat) (all : buffers.Perm (world.buffers.map Buffer.number)) :
      (buffers.foldl World.drop world).buffers = [] := by
    rw [world.drops_buffers, List.filter_eq_nil_iff]
    intro live member
    simpa using all.mem_iff.mpr (List.mem_map_of_mem member)
  obtain ⟨reached, winds⟩ := reachable.drops fixed first
  obtain ⟨reached', winds'⟩ := reachable.drops fixed second
  have dropped := gone first all
  have dropped' := gone second all'
  rw [← run_drops] at reached winds dropped
  rw [← run_drops] at reached' winds' dropped'
  have blocks : one.blocks = other.blocks :=
    winds.blocks_eq winds' reached.owned reached'.owned dropped dropped'
  have source (number : Nat) : (one.providers number).source = (other.providers number).source :=
    (winds.source number).trans (winds'.source number).symm
  refine ⟨blocks, ?_, ⟨winds.quiet.caches, winds'.quiet.caches⟩,
    ⟨winds.quiet.openings, winds'.quiet.openings⟩, ?_⟩
  · intro provider
    rw [reached.counted.stats provider, reached'.counted.stats provider]
    exact World.balance_congr (World.tally_congr blocks) provider
  · obtain ⟨made, called⟩ := winds.called
    obtain ⟨made', called'⟩ := winds'.called
    have perm := reached.deallocs_perm reached' blocks source
    refine ⟨made, made', called, called', ?_⟩
    rw [called, called'] at perm
    exact (List.perm_append_left_iff _).mp perm

section Scattered

open Simulation

/-- A block that cannot be released, two that can, one of them shared, and one of host
memory. -/
def scatteredSteps : List (Step Linker.platform) :=
  [.make ⟨some Linker.library, "", "partial_"⟩ 0,
    .make ⟨some Linker.library, "", "awkward_cuda_ptr"⟩ 0,
    .allocate 0 7 .float32 .accelerator, .allocate 1 3 .float32 .accelerator, .clone 1,
    .allocate 1 5 .int8 .accelerator, .allocate 1 2 .float64 .host]

/-- Dropped in either order, the buffers leave the same counters and the same calls that
release. -/
theorem scattered_drops_in_any_order :
    let scattered := (start (P := Linker.platform) {}).run scatteredSteps
    let one := (scattered.run ([0, 1, 2, 3, 4].map .drop)).world
    let other := (scattered.run ([4, 2, 3, 0, 1].map .drop)).world
    scattered.world.buffers.map Buffer.number = [0, 1, 2, 3, 4] ∧
    (one.providers 1).stats = ⟨1, 0, 1, 28⟩ ∧ (other.providers 1).stats = ⟨1, 0, 1, 28⟩ ∧
    ∃ made', other.outside.deallocs = scattered.world.outside.deallocs ++ made' ∧
      [("awkward_cuda_ptrf_dealloc", 0x600000), ("awkward_cuda_ptri8_dealloc", 0x100000)].Perm
        made' := by
  intro scattered one other
  have live : scattered.world.buffers.map Buffer.number = [0, 1, 2, 3, 4] := by decide +kernel
  have all : [0, 1, 2, 3, 4].Perm (scattered.world.buffers.map Buffer.number) := by rw [live]
  have all' : [4, 2, 3, 0, 1].Perm (scattered.world.buffers.map Buffer.number) := by
    rw [live]
    decide
  have stats : (one.providers 1).stats = ⟨1, 0, 1, 28⟩ := by decide +kernel
  have calls : one.outside.deallocs = scattered.world.outside.deallocs ++
      [("awkward_cuda_ptrf_dealloc", 0x600000), ("awkward_cuda_ptri8_dealloc", 0x100000)] := by
    decide +kernel
  obtain ⟨_, same, _, _, made, made', called, called', perm⟩ :=
    run_drops_in_any_order Linker.platform_fixedLookUps _ _ _ _ all all'
  refine ⟨live, stats, (same 1).symm.trans stats, made', called', ?_⟩
  cases List.append_cancel_left (calls.symm.trans called)
  exact perm

end Scattered

end Session

end TypedMemory
