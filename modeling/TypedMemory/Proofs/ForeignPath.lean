import TypedMemory.Proofs.Inquiries

/-!
# Paths that come too late

Once a cache holds the library of the accelerator, it no longer matters where a
registry would look for one. Take two allocators that differ in that path only, each
in its own copy of a world: whatever is done with the one and with the other, it comes
out the same, with the same calls, counters and caches, and no loader is asked
(`Session.run_whatever_path`). The path shows in warnings only, one for every inquiry
that names another path than the one the library was opened from.
-/

namespace TypedMemory

variable {P : Platform}

/-- Sources of the same memory, as far as the libraries that are cached go. -/
inductive Source.Alongside (caches : Nat → Cache P) : Source → Source → Prop
  | host : Alongside caches .host .host
  | library {route route' : Route} {cache : Nat}
      (along : route.Alongside (caches cache) route') :
      Alongside caches (.library route cache) (.library route' cache)

theorem Source.Alongside.refl (caches : Nat → Cache P) (source : Source) :
    source.Alongside caches source := by
  cases source with
  | host => exact .host
  | library route cache => exact .library (.refl _ route)

/-- Sources that reach the same memory do so later, too, because libraries stay cached. -/
theorem Source.Alongside.kept {caches later : Nat → Cache P} {source source' : Source}
    (along : source.Alongside caches source') (kept : ∀ cache, (caches cache).Keeps (later cache)) :
    source.Alongside later source' := by
  cases along with
  | host => exact .host
  | @library route route' cache along =>
      refine .library ⟨along.backend, along.stem, along.path.imp_right ?_⟩
      intro there
      obtain ⟨loaded, cached⟩ := Option.isSome_iff_exists.mp there
      exact Option.isSome_iff_exists.mpr ⟨loaded, kept cache _ _ cached⟩

/-- The same state, and the same journal but for warnings. -/
def Outlook.exact : Outlook P :=
  .ofEq (·.warning?.isNone) fun event warned => by simp [Entry.warning?, warned]

namespace HostMemory

variable {left right : Outside P}

/-- The host grants a block alike, and at the same address, where only warnings differ. -/
theorem allocate_exact (agree : Outlook.exact.Agree left right) (type : ElementType)
    (length : UInt64) (stats : Stats) :
    ∃ answer stats' after after', allocate type length stats left = (answer, stats', after) ∧
      allocate type length stats right = (answer, stats', after') ∧
      Outlook.exact.Agree after after' := by
  have same : left.state = right.state := agree.state
  unfold allocate
  rw [same]
  cases layout type length with
  | error error => exact ⟨_, _, _, _, rfl, rfl, agree⟩
  | ok bytes =>
      dsimp only
      split
      · exact ⟨_, _, _, _, rfl, rfl, agree⟩
      · split
        · exact ⟨_, _, _, _, rfl, rfl, agree.withState rfl⟩
        · exact ⟨_, _, _, _, rfl, rfl, (agree.withState rfl).report ..⟩

/-- The host takes a block back alike where only warnings differ. -/
theorem deallocate_exact (agree : Outlook.exact.Agree left right) (type : ElementType)
    (address : Nat) (length : UInt64) (stats : Stats) :
    ∃ answer stats' after after',
      deallocate type address length stats left = (answer, stats', after) ∧
      deallocate type address length stats right = (answer, stats', after') ∧
      Outlook.exact.Agree after after' := by
  have same : left.state = right.state := agree.state
  unfold deallocate
  rw [same]
  cases layout type length with
  | error error => exact ⟨_, _, _, _, rfl, rfl, agree⟩
  | ok bytes => exact ⟨_, _, _, _, rfl, rfl, (agree.withState rfl).report ..⟩

end HostMemory

namespace World

variable {left right : World P}

/-- Worlds that differ in warnings only, and in the paths of libraries that are
cached. -/
structure Twins (left right : World P) : Prop where
  agree : Outlook.exact.Agree left.outside right.outside
  caches : right.caches = left.caches
  stats : ∀ number, (right.providers number).stats = (left.providers number).stats
  source : ∀ number, (left.providers number).source.Alongside left.caches
    (right.providers number).source
  blocks : right.blocks = left.blocks
  buffers : right.buffers = left.buffers
  nextBuffer : right.nextBuffer = left.nextBuffer

/-- Twins have one answer to what they are asked, and stay twins. -/
def BothAnswer {α : Type} (one other : α × World P) : Prop :=
  one.1 = other.1 ∧ one.2.Twins other.2

namespace Twins

/-- Two providers of one number are both of host memory, or reach the same library. -/
theorem abreast (twins : left.Twins right) (number : Nat) :
    ((left.providers number).source = .host ∧ (right.providers number).source = .host) ∨
      ∃ route route' cache, Outlook.exact.Abreast number left right route route' cache := by
  have along := twins.source number
  generalize source : (left.providers number).source = one at along
  generalize source' : (right.providers number).source = other at along
  cases along with
  | host => exact .inl ⟨rfl, rfl⟩
  | library along =>
      exact .inr ⟨_, _, _, source, source', along, twins.stats number, twins.caches, twins.agree⟩

/-- Providers of one number have memory of one backend. -/
theorem backend (twins : left.Twins right) (number : Nat) :
    (right.providers number).backend = (left.providers number).backend := by
  unfold Provider.backend
  rcases twins.abreast number with ⟨host, host'⟩ | ⟨route, route', cache, abreast⟩
  · rw [host, host']
  · rw [abreast.source, abreast.source']
    exact abreast.along.backend

/-- Twins stay twins if a provider is charged alike in both and no library is lost. -/
theorem charged (twins : left.Twins right) {number : Nat} {stats : Stats}
    {caches : Nat → Cache P} {outside outside' : Outside P}
    (agree : Outlook.exact.Agree outside outside')
    (kept : ∀ cache, (left.caches cache).Keeps (caches cache)) :
    (left.charged number stats caches outside).Twins
      (right.charged number stats caches outside') where
  agree := agree
  caches := rfl
  stats other := by rw [charged_stats, charged_stats, twins.stats]
  source other := by
    rw [charged_source, charged_source]
    exact (twins.source other).kept kept
  blocks := twins.blocks
  buffers := twins.buffers
  nextBuffer := twins.nextBuffer

/-- A dealing that goes alike in twins leaves twins. -/
theorem together (twins : left.Twins right) {α : Type} {number : Nat} {one other : α × World P}
    (dealt : Outlook.exact.Together number left right one other)
    (touches : left.Touches number one.2) : BothAnswer one other := by
  obtain ⟨answer, stats, caches, outside, outside', rfl, rfl, agree⟩ := dealt
  exact ⟨rfl, twins.charged agree touches.kept⟩

/-- A provider grants or refuses a block alike in twins. A path that comes too late is seen by
nobody, for the library is cached. -/
theorem request (twins : left.Twins right) (number : Nat) (type : ElementType)
    (length : UInt64) :
    BothAnswer (left.request number type length) (right.request number type length) := by
  refine twins.together ?_ (left.request_requested number type length).1
  rcases twins.abreast number with ⟨host, host'⟩ | ⟨_, _, _, abreast⟩
  · obtain ⟨_, _, after, after', asked, asked', agree⟩ := HostMemory.allocate_exact twins.agree type
      length (left.providers number).stats
    rw [← twins.stats] at asked'
    exact ⟨_, _, _, after, after', request_of_host host asked,
      twins.caches ▸ request_of_host host' asked', agree⟩
  · exact Outlook.request_together abreast type length

/-- Making sure that blocks could be had goes alike in twins. -/
theorem prepare (twins : left.Twins right) (number : Nat) (type : ElementType) :
    BothAnswer (left.prepare number type) (right.prepare number type) := by
  refine twins.together ?_ (left.prepare_touches number type).1
  rcases twins.abreast number with ⟨host, host'⟩ | ⟨_, _, _, abreast⟩
  · exact ⟨_, _, _, _, _, prepare_of_host host,
      twins.caches ▸ twins.stats number ▸ prepare_of_host host', twins.agree⟩
  · exact Outlook.prepare_together abreast type

/-- A provider takes a block back, or fails to, alike in twins. -/
theorem giveBack (twins : left.Twins right) (number : Nat) (type : ElementType) (address : Nat)
    (length : UInt64) :
    BothAnswer (left.giveBack number type address length)
      (right.giveBack number type address length) := by
  refine twins.together ?_ (left.giveBack_returned number type address length).1
  rcases twins.abreast number with ⟨host, host'⟩ | ⟨_, _, _, abreast⟩
  · obtain ⟨_, _, after, after', asked, asked', agree⟩ := HostMemory.deallocate_exact twins.agree
      type address length (left.providers number).stats
    rw [← twins.stats] at asked'
    exact ⟨_, _, _, after, after', giveBack_of_host host asked,
      twins.caches ▸ giveBack_of_host host' asked', agree⟩
  · exact Outlook.giveBack_together abreast type address length

theorem enter (twins : left.Twins right) (entry : Entry P) :
    (left.enter entry).Twins (right.enter entry) :=
  { twins with agree := twins.agree.enter entry }

theorem report (twins : left.Twins right) (level : Level) (message : String)
    (fields : List (String × FieldValue)) :
    (left.report level message fields).Twins (right.report level message fields) :=
  { twins with agree := twins.agree.report level message fields }

theorem modifyBlock (twins : left.Twins right) (number : Nat) (change : Block → Block) :
    (left.modifyBlock number change).Twins (right.modifyBlock number change) :=
  { twins with blocks := congrArg (List.modify · number change) twins.blocks }

/-- Twins give a new block the same number, and its buffer too. -/
theorem addBlock (twins : left.Twins right) (block : Block) :
    BothAnswer (left.addBlock block) (right.addBlock block) := by
  refine ⟨twins.nextBuffer.symm, twins.agree, twins.caches, twins.stats, twins.source, ?_, ?_, ?_⟩
  · exact congrArg (· ++ [block]) twins.blocks
  · change right.buffers ++ [⟨right.nextBuffer, right.blocks.length⟩] = _
    rw [twins.buffers, twins.nextBuffer, twins.blocks]
    rfl
  · exact congrArg (· + 1) twins.nextBuffer

/-- A buffer is obtained alike in twins, with elements or without. -/
theorem obtainBuffer (twins : left.Twins right) (number : Nat) (type : ElementType)
    (length : UInt64) :
    BothAnswer (left.obtainBuffer number type length) (right.obtainBuffer number type length) := by
  unfold World.obtainBuffer
  split
  · obtain ⟨same, twins⟩ := twins.prepare number type
    generalize left.prepare number type = asked at same twins ⊢
    rcases asked with ⟨answer, after⟩
    generalize right.prepare number type = asked' at same twins ⊢
    rcases asked' with ⟨answer', after'⟩
    cases same
    cases answer with
    | error error => exact ⟨rfl, twins⟩
    | ok _ =>
        obtain ⟨buffer, twins⟩ :=
          twins.addBlock { provider := number, type, address := type.alignment, length }
        exact ⟨congrArg Except.ok buffer, twins⟩
  · obtain ⟨same, twins⟩ := twins.request number type length
    generalize left.request number type length = asked at same twins ⊢
    rcases asked with ⟨answer, after⟩
    generalize right.request number type length = asked' at same twins ⊢
    rcases asked' with ⟨answer', after'⟩
    cases same
    cases answer with
    | error error => exact ⟨rfl, twins⟩
    | ok address =>
        have count : after'.blocks.length = after.blocks.length := congrArg List.length twins.blocks
        obtain ⟨buffer, twins⟩ := twins.addBlock { provider := number, type, address, length }
        dsimp only
        rw [count]
        exact ⟨congrArg Except.ok buffer, twins.enter _⟩

/-- Allocators that send every backend to the same provider serve alike in twins. -/
theorem allocate (twins : left.Twins right) {allocator allocator' : Allocator}
    (served : ∀ backend, allocator'.provider backend = allocator.provider backend)
    (length : Int64) (type : ElementType) (backend : Backend) :
    BothAnswer (left.allocate allocator length type backend)
      (right.allocate allocator' length type backend) := by
  unfold World.allocate
  rw [served]
  split
  · exact ⟨rfl, twins⟩
  · cases allocator.provider backend with
    | error error => exact ⟨rfl, twins⟩
    | ok number => exact twins.obtainBuffer number type _

/-- So they do if the type and the backend are named by text. -/
theorem allocateNamed (twins : left.Twins right) {allocator allocator' : Allocator}
    (served : ∀ backend, allocator'.provider backend = allocator.provider backend)
    (length : Int64) (type backend : String) :
    BothAnswer (left.allocateNamed allocator length type backend)
      (right.allocateNamed allocator' length type backend) := by
  unfold World.allocateNamed
  cases Backend.parse backend with
  | error error => exact ⟨rfl, twins⟩
  | ok backend =>
      cases ElementType.parse type with
      | error error => exact ⟨rfl, twins⟩
      | ok type => exact twins.allocate served length type backend

/-- A buffer owns the same block in twins. -/
theorem blockNumber? (twins : left.Twins right) (buffer : Nat) :
    right.blockNumber? buffer = left.blockNumber? buffer := by
  unfold World.blockNumber?
  rw [twins.buffers]

theorem share (twins : left.Twins right) (number : Nat) :
    (left.share number).Twins (right.share number) := by
  refine { twins.modifyBlock number _ with
    buffers := ?_, nextBuffer := congrArg (· + 1) twins.nextBuffer }
  change right.buffers ++ [⟨right.nextBuffer, number⟩] = _
  rw [twins.buffers, twins.nextBuffer]
  rfl

theorem part (twins : left.Twins right) (buffer number : Nat) :
    (left.part buffer number).Twins (right.part buffer number) :=
  { twins.modifyBlock number _ with buffers := congrArg (List.filter _) twins.buffers }

/-- The release of a block goes alike in twins, and if it fails, it fails with one error. -/
theorem release (twins : left.Twins right) (number : Nat) (block : Block) :
    BothAnswer (left.release number block) (right.release number block) := by
  unfold World.release
  split
  · exact ⟨rfl, twins⟩
  · have backend : right.backendOf block = left.backendOf block := twins.backend block.provider
    obtain ⟨same, twins⟩ := (twins.enter (.returned number block.provider block.type block.address
      block.length)).giveBack block.provider block.type block.address block.length
    dsimp only
    rw [backend]
    generalize World.giveBack (left.enter _) _ _ _ _ = given at same twins ⊢
    generalize World.giveBack (right.enter _) _ _ _ _ = given' at same twins ⊢
    rcases given with ⟨answer, after⟩
    rcases given' with ⟨answer', after'⟩
    cases same
    cases answer with
    | error error => exact ⟨rfl, twins.report ..⟩
    | ok _ => exact ⟨rfl, twins⟩

/-- Retiring a block settles it alike in twins. -/
theorem retire (twins : left.Twins right) (number : Nat) (block : Block) :
    (left.retire number block).Twins (right.retire number block) := by
  obtain ⟨same, twins⟩ := twins.release number block
  unfold World.retire
  generalize left.release number block = asked at same twins ⊢
  rcases asked with ⟨outcome, after⟩
  generalize right.release number block = asked' at same twins ⊢
  rcases asked' with ⟨outcome', after'⟩
  cases same
  have settled := twins.modifyBlock number fun block => { block with outcome := some outcome }
  have backend : World.backendOf _ block = World.backendOf _ block := settled.backend block.provider
  dsimp only at settled backend ⊢
  split
  · exact settled
  · rw [backend]
    exact settled.report ..

/-- Dropping a buffer takes the same owner away, and retires the block in both twins or in
neither. -/
theorem drop (twins : left.Twins right) (buffer : Nat) :
    (left.drop buffer).Twins (right.drop buffer) := by
  have same := twins.blockNumber? buffer
  rcases left.drop_cases buffer with
    ⟨absent, equation⟩ | ⟨number, held, others, equation⟩ |
      ⟨number, block, held, present, last, equation⟩
  · rw [equation, drop_absent (same.trans absent)]
    exact twins
  · rw [equation, drop_shared (same.trans held) (twins.blocks ▸ others)]
    exact twins.part buffer number
  · rw [equation, drop_last (same.trans held) (twins.blocks ▸ present) last]
    exact (twins.part buffer number).retire number _

/-- A write takes effect in both twins or in neither. -/
theorem write? (twins : left.Twins right) (buffer index : Nat) (value : Scalar) :
    (left.write? buffer index value = none ∧ right.write? buffer index value = none) ∨
      ∃ after after', left.write? buffer index value = some after ∧
        right.write? buffer index value = some after' ∧ after.Twins after' := by
  have backend (block : Block) : right.backendOf block = left.backendOf block :=
    twins.backend block.provider
  unfold World.write?
  rw [twins.blockNumber?, twins.blocks]
  cases left.blockNumber? buffer with
  | none => exact .inl ⟨rfl, rfl⟩
  | some number =>
      dsimp only
      cases left.blocks[number]? with
      | none => exact .inl ⟨rfl, rfl⟩
      | some block =>
          dsimp only
          rw [backend]
          split
          · exact .inr ⟨_, _, rfl, rfl, twins.modifyBlock ..⟩
          · exact .inl ⟨rfl, rfl⟩

end Twins

theorem Twins.refl (world : World P) : world.Twins world :=
  ⟨⟨rfl, rfl⟩, rfl, fun _ => rfl, fun _ => .refl _ _, rfl, rfl, rfl⟩

/-- Allocators that are made with different paths, when the library is cached already,
are alike. -/
theorem addAllocator_twins (world : World P) (registry : Registry) {cache : Nat}
    (cached : ((world.caches cache).get? .accelerator).isSome) (path path' : Path) :
    (world.addAllocator { registry with library := some path } cache).2.Twins
        (world.addAllocator { registry with library := some path' } cache).2 ∧
      ∀ backend,
        (world.addAllocator { registry with library := some path' } cache).1.provider backend =
          (world.addAllocator { registry with library := some path } cache).1.provider backend := by
  by_cases empty : registry.stem.isEmpty = true
  · -- Without a stem no accelerator is reached, whatever the path.
    have made (path : Path) :
        world.addAllocator { registry with library := some path } cache =
          (⟨{ registry with library := some path }, world.nextProvider, none⟩,
            (world.addProvider .host).2) := by
      simp only [addAllocator, Registry.resolve, empty, ↓reduceIte]
      rfl
    rw [made, made]
    refine ⟨.refl _, ?_⟩
    intro backend
    cases backend <;> simp [Allocator.provider, Registry.resolve, empty]
  · have made (path : Path) :
        world.addAllocator { registry with library := some path } cache =
          (⟨{ registry with library := some path }, world.nextProvider,
              some (world.nextProvider + 1)⟩,
            ((world.addProvider .host).2.addProvider
              (.library ⟨.accelerator, path, registry.stem⟩ cache)).2) := by
      simp only [addAllocator, Registry.resolve, empty, Bool.false_eq_true, ↓reduceIte]
      rfl
    rw [made, made]
    refine ⟨{ Twins.refl _ with stats := ?_, source := ?_ }, ?_⟩
    · intro number
      by_cases new : number = world.nextProvider + 1 <;> simp [addProvider, replace, new]
    · intro number
      by_cases new : number = world.nextProvider + 1
      · subst new
        simp only [addProvider, replace_same]
        exact .library ⟨rfl, rfl, .inr cached⟩
      · simp only [addProvider, replace_other _ _ new]
        exact .refl _ _
    · intro backend
      cases backend <;> simp [Allocator.provider, Registry.resolve, empty]

end World

namespace Session

/-- Sessions whose worlds are twins, and whose allocators of one number serve alike. -/
structure Twins (own : Nat) (left right : Session P) : Prop where
  world : left.world.Twins right.world
  allocator : ∃ allocator allocator', left.allocators own = some allocator ∧
    right.allocators own = some allocator' ∧
    ∀ backend, allocator'.provider backend = allocator.provider backend

theorem Twins.inWorld {own : Nat} {left right : Session P} (twins : left.Twins own right)
    {world world' : World P} (worlds : world.Twins world') :
    (left.inWorld world).Twins own (right.inWorld world') :=
  ⟨worlds, twins.allocator⟩

/-- A step that asks no other allocator has one reply in twin sessions and leaves twins. -/
theorem Twins.step {own : Nat} {left right : Session P} (twins : left.Twins own right)
    {step : Step P} (through : step.Through own) :
    left.reply step = right.reply step ∧ (left.step step).Twins own (right.step step) := by
  have world := twins.world
  obtain ⟨allocator, allocator', held, held', served⟩ := twins.allocator
  cases step with
  | make | discard => exact through.elim
  | drift state =>
      exact ⟨rfl, twins.inWorld { world with agree := world.agree.withState rfl }⟩
  | allocate number length type backend =>
      cases through
      obtain ⟨answer, after⟩ := world.allocate served length type backend
      simp only [reply, Session.step, held, held', Option.map_some]
      exact ⟨congrArg some answer, twins.inWorld after⟩
  | allocateNamed number length type backend =>
      cases through
      obtain ⟨answer, after⟩ := world.allocateNamed served length type backend
      simp only [reply, Session.step, held, held', Option.map_some]
      exact ⟨congrArg some answer, twins.inWorld after⟩
  | clone buffer =>
      dsimp only [reply, Session.step]
      rw [World.clone?_eq, World.clone?_eq, world.blockNumber?, world.nextBuffer]
      cases left.world.blockNumber? buffer with
      | none => exact ⟨rfl, twins⟩
      | some number => exact ⟨rfl, twins.inWorld (world.share number)⟩
  | drop buffer => exact ⟨rfl, twins.inWorld (world.drop buffer)⟩
  | write buffer index value =>
      refine ⟨rfl, ?_⟩
      dsimp only [Session.step]
      rcases world.write? buffer index value with
        ⟨refused, refused'⟩ | ⟨after, after', written, written', both⟩
      · rw [refused, refused']
        exact twins
      · rw [written, written']
        exact twins.inWorld both

/-- So has every run of such steps. -/
theorem Twins.run {own : Nat} {left right : Session P} (twins : left.Twins own right)
    (steps : List (Step P)) (through : ∀ step ∈ steps, step.Through own) :
    left.replies steps = right.replies steps ∧ (left.run steps).Twins own (right.run steps) := by
  induction steps generalizing left right with
  | nil => exact ⟨rfl, twins⟩
  | cons step steps ih =>
      obtain ⟨reply, twins⟩ := twins.step (through step List.mem_cons_self)
      obtain ⟨replies, twins⟩ :=
        ih twins fun other member => through other (List.mem_cons_of_mem _ member)
      exact ⟨congrArg₂ List.cons reply replies, twins⟩

/-- **Paths that come too late do not matter.** After any session in which a cache has
come to hold the library of the accelerator, let an allocator be made with this cache,
in one copy of the world with one path of the library, in another copy with another
path. Whatever steps are then taken that ask this allocator only, they have the same
answers in both copies and lead to the same blocks and buffers, the same counters of
every provider, and the same calls of entry points. The caches stay as they were and
no loader is asked. The journals differ in warnings only; and in each copy there is a
warning for every inquiry that names another path than its library was opened from,
and no other. -/
theorem run_whatever_path (state : P.State) (earlier : List (Step P)) (registry : Registry)
    (cache : Nat) (path path' : Path) (steps : List (Step P))
    (cached : ((((start state).run earlier).world.caches cache).get? .accelerator).isSome)
    (through : ∀ step ∈ steps, step.Through ((start state).run earlier).nextAllocator) :
    let before := (start state).run earlier
    let one := before.step (.make { registry with library := some path } cache)
    let other := before.step (.make { registry with library := some path' } cache)
    let left := (one.run steps).world
    let right := (other.run steps).world
    one.replies steps = other.replies steps ∧
    left.blocks = right.blocks ∧ left.buffers = right.buffers ∧
    (∀ provider, (left.providers provider).stats = (right.providers provider).stats) ∧
    left.outside.calls = right.outside.calls ∧
    (left.caches = before.world.caches ∧ right.caches = before.world.caches) ∧
    (left.outside.openings = before.world.outside.openings ∧
      right.outside.openings = before.world.outside.openings) ∧
    left.outside.journal.filter (·.warning?.isNone) =
      right.outside.journal.filter (·.warning?.isNone) ∧
    (left.outside.warnings = before.world.outside.warnings ++
        (one.allInquiries steps).filterMap before.world.complaint? ∧
      right.outside.warnings = before.world.outside.warnings ++
        (other.allInquiries steps).filterMap before.world.complaint?) := by
  intro before one other left right
  have sound : before.Sound fun _ => True :=
    (start_sound state).run earlier fun step _ => by cases step <;> trivial
  -- In each copy on its own: what the steps ask for is there.
  have heeds (path : Path) : before.world.Heeds
      ((before.step (.make { registry with library := some path } cache)).allInquiries steps)
      ((before.step (.make { registry with library := some path } cache)).run steps).world :=
    (before.make_heeds { registry with library := some path } cache).trans
      ((sound.equipped_make _ cached).run steps through)
  -- Between the copies: each step keeps them twins.
  obtain ⟨world, served⟩ := before.world.addAllocator_twins registry cached path path'
  have made : one.Twins before.nextAllocator other :=
    ⟨world, _, _, replace_same .., replace_same .., served⟩
  obtain ⟨replies, twins⟩ := made.run steps through
  refine ⟨replies, twins.world.blocks.symm, twins.world.buffers.symm,
    fun provider => (twins.world.stats provider).symm, ?_,
    ⟨(heeds path).caches, (heeds path').caches⟩, ⟨(heeds path).openings, (heeds path').openings⟩,
    twins.world.agree.journal, ⟨(heeds path).warnings, (heeds path').warnings⟩⟩
  apply twins.world.agree.filterMap
  intro entry warned
  cases entry with
  | called => cases warned
  | _ => rfl

section Moved

open Simulation

/-- A library was opened, and a block of its memory is live. -/
def settledSteps : List (Step Linker.platform) :=
  [.make ⟨some Linker.library, "", "awkward_cuda_ptr"⟩ 0, .allocate 0 3 .float32 .accelerator]

/-- Another allocator is asked for blocks with and without elements, one of which has no
entry point, and all buffers are dropped. -/
def movedSteps : List (Step Linker.platform) :=
  [.allocate 1 5 .int8 .accelerator, .allocate 1 0 .float32 .accelerator, .clone 1,
    .allocateNamed 1 7 "bool" "gpu", .allocate 1 4 .float64 .host, .drop 0, .drop 1, .drop 2,
    .drop 3]

/-- The allocator that names another path gets the same replies as the one that names the right
one, with a warning for each inquiry. -/
theorem moved_whatever_path :
    let before := (start (P := Linker.platform) {}).run settledSteps
    let one := before.step (.make ⟨some Linker.library, "", "partial_"⟩ 0)
    let other := before.step (.make ⟨some (.ofText "/opt/kernels.so"), "", "partial_"⟩ 0)
    ((before.world.caches 0).get? .accelerator).isSome ∧
    (∀ step ∈ movedSteps, step.Through before.nextAllocator) ∧
    one.replies movedSteps = other.replies movedSteps ∧
    (one.run movedSteps).world.outside.warnings = [] ∧
    (other.run movedSteps).world.outside.openings = [⟨.accelerator, Linker.library, true⟩] ∧
    (other.run movedSteps).world.outside.warnings.length = 4 := by
  intro before one other
  have cached : ((before.world.caches 0).get? .accelerator).isSome := by decide +kernel
  have through : ∀ step ∈ movedSteps, step.Through before.nextAllocator := by
    have number : before.nextAllocator = 1 := by decide +kernel
    rw [number]
    simp [movedSteps, Step.Through]
  obtain ⟨replies, _, _, _, _, _, ⟨_, openings⟩, _, warnings, warnings'⟩ :=
    run_whatever_path (P := Linker.platform) {} settledSteps ⟨none, "", "partial_"⟩ 0
      Linker.library (.ofText "/opt/kernels.so") movedSteps cached through
  refine ⟨cached, through, replies, warnings.trans ?_, openings.trans ?_,
    (congrArg List.length warnings').trans ?_⟩
  · decide +kernel
  · decide +kernel
  · decide +kernel

end Moved

end Session

end TypedMemory
