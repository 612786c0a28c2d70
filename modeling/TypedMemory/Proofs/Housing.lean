import TypedMemory.Proofs.Mirror

/-!
# Where buffers live

A buffer is made in one memory, and as long as it is live it owns a block of that
memory (`World.Houses`). No move changes which block a live buffer owns, nor which
provider a block came from (`World.Move.retains`), and providers keep their sources.
-/

namespace TypedMemory

variable {P : Platform}

namespace World

variable {caches : Nat → Prop} {memory : Backend} {before after world : World P} {buffer : Nat}

/-- If a buffer still is live, it owned the same block before, from the same
provider. -/
def Retains (buffer : Nat) (before after : World P) : Prop :=
  ∀ number block', after.blockNumber? buffer = some number → after.blocks[number]? = some block' →
    ∃ block, before.blockNumber? buffer = some number ∧ before.blocks[number]? = some block ∧
      block'.provider = block.provider

/-- What was the same block before is the same block from earlier on. -/
theorem Retains.trans {first second third : World P} (early : Retains buffer first second)
    (late : Retains buffer second third) : Retains buffer first third := by
  intro number block' held present
  obtain ⟨block, held, present, same⟩ := late number block' held present
  obtain ⟨old, held, present, older⟩ := early number block held present
  exact ⟨old, held, present, same.trans older⟩

/-- A dealing with a provider leaves buffers and blocks alone. -/
theorem Touches.retains {number : Nat} (touches : before.Touches number after) (buffer : Nat) :
    Retains buffer before after := by
  intro other block held present
  unfold blockNumber? at held
  rw [touches.buffers] at held
  rw [touches.blocks] at present
  exact ⟨block, held, present, rfl⟩

/-- A change to a block keeps the provider that it came from. -/
theorem retains_modify (world : World P) (buffer number : Nat) (change : Block → Block)
    (provider : ∀ block, (change block).provider = block.provider) :
    Retains buffer world (world.modifyBlock number change) := by
  intro other block' held present
  rcases getElem?_modify_cases present with ⟨_, older⟩ | ⟨block, rfl, older, rfl⟩
  · exact ⟨block', held, older, rfl⟩
  · exact ⟨block, held, older, provider block⟩

/-- A new block has a number of its own, so no live buffer comes to own it. -/
theorem retains_appendBlock (orderly : world.Orderly) (buffer : Nat) (block : Block) :
    Retains buffer world (world.appendBlock block) := by
  intro number block' held present
  have inside := orderly.present _ (mem_of_blockNumber? held)
  rcases getElem?_concat_cases present with older | ⟨rfl, _⟩
  · exact ⟨block', held, older, rfl⟩
  · exact (Nat.lt_irrefl _ inside).elim

/-- A new buffer has a number of its own, so older ones are found as before. -/
theorem retains_addBuffer (orderly : world.Orderly) (older : buffer < world.nextBuffer)
    (number : Nat) : Retains buffer world (world.addBuffer number) := by
  intro other block held present
  rw [blockNumber?_addBuffer orderly.numbered, if_neg (Nat.ne_of_lt older)] at held
  exact ⟨block, held, present, rfl⟩

/-- A buffer that is gone owned nothing that another one comes to own. -/
theorem retains_loseBuffer (world : World P) (buffer gone : Nat) :
    Retains buffer world (world.loseBuffer gone) := by
  intro number block held present
  rw [blockNumber?_loseBuffer] at held
  split at held
  · cases held
  · exact ⟨block, held, present, rfl⟩

/-- Dropping one buffer leaves the others their blocks. -/
theorem retains_part (world : World P) (buffer gone number : Nat) :
    Retains buffer world (world.part gone number) :=
  (world.retains_modify buffer number (fun block => { block with owners := block.owners - 1 })
    fun _ => rfl).trans (retains_loseBuffer _ buffer gone)

/-- Settling a block leaves its buffers theirs. -/
theorem retains_settle (world : World P) (buffer number : Nat) (outcome : ReleaseOutcome) :
    Retains buffer world (world.settle number outcome) :=
  world.retains_modify buffer number (fun block => { block with outcome := some outcome })
    fun _ => rfl

/-- A block may be added to a world whose buffers own blocks that exist. -/
theorem Orderly.appendBlock (orderly : world.Orderly) (block : Block) :
    (world.appendBlock block).Orderly where
  numbered := orderly.numbered
  present live member := by
    have inside := orderly.present live member
    simp only [World.appendBlock, List.length_append]
    exact Nat.lt_add_right _ inside

/-- A new block with its new buffer leaves older buffers theirs. -/
theorem retains_addBlock (orderly : world.Orderly) (older : buffer < world.nextBuffer)
    (block : Block) : Retains buffer world (world.addBlock block).2 :=
  (retains_appendBlock orderly buffer block).trans
    (retains_addBuffer (orderly.appendBlock block) older _)

/-- No move gives a live buffer another block, or a block another provider. -/
theorem Move.retains (moved : before.Move caches after) (orderly : before.Orderly)
    (older : buffer < before.nextBuffer) : Retains buffer before after := by
  have added {number : Nat} {middle : World P} (touches : before.Touches number middle)
      (block : Block) : Retains buffer before (middle.addBlock block).2 := by
    refine (touches.retains buffer).trans (retains_addBlock (orderly.touched touches) ?_ block)
    rwa [touches.nextBuffer]
  cases moved with
  | drift | provide => exact fun number block held present => ⟨block, held, present, rfl⟩
  | refuse _ asked => exact (requested_of asked).1.retains buffer
  | unprepared _ asked => exact (prepared_of asked).1.retains buffer
  | grant _ _ asked => exact added (requested_of asked).1 _
  | prepared _ asked => exact added (prepared_of asked).1 _
  | @share _ number _ =>
      let change (block : Block) : Block := { block with owners := block.owners + 1 }
      have modified : (before.modifyBlock number change).Orderly := by
        refine ⟨orderly.numbered, fun live member => ?_⟩
        exact (List.length_modify ..).symm ▸ orderly.present live member
      exact (before.retains_modify buffer number change fun _ => rfl).trans
        (retains_addBuffer modified older number)
  | @part gone number _ _ => exact before.retains_part buffer gone number
  | @retire gone number block _ _ _ =>
      have parted := before.retains_part buffer gone number
      rcases (before.part gone number).retire_cases number
        { block with owners := block.owners - 1 } with ⟨_, touches, _⟩ | ⟨_, _, touches, _⟩ <;>
        exact (parted.trans (retains_settle _ buffer number _)).trans (touches.retains buffer)
  | @write number _ index value =>
      exact before.retains_modify buffer number (·.write index value) fun _ => rfl

/-- A buffer that was made, and owns a block of a memory if it still is live. -/
structure Houses (world : World P) (memory : Backend) (buffer : Nat) : Prop where
  older : buffer < world.nextBuffer
  belongs : ∀ number block, world.blockNumber? buffer = some number →
    world.blocks[number]? = some block → world.Belongs memory block

/-- Numbers of buffers are never given out again. -/
theorem Move.nextBuffer (moved : before.Move caches after) :
    before.nextBuffer ≤ after.nextBuffer := by
  cases moved with
  | drift | provide | part | write => exact Nat.le_refl _
  | share => exact Nat.le_succ _
  | refuse _ asked => exact Nat.le_of_eq (requested_of asked).1.nextBuffer.symm
  | unprepared _ asked => exact Nat.le_of_eq (prepared_of asked).1.nextBuffer.symm
  | grant _ _ asked =>
      exact Nat.le_trans (Nat.le_of_eq (requested_of asked).1.nextBuffer.symm) (Nat.le_succ _)
  | prepared _ asked =>
      exact Nat.le_trans (Nat.le_of_eq (prepared_of asked).1.nextBuffer.symm) (Nat.le_succ _)
  | @retire gone number block _ _ _ =>
      rcases (before.part gone number).retire_cases number
        { block with owners := block.owners - 1 } with ⟨_, touches, _⟩ | ⟨_, _, touches, _⟩ <;>
        exact Nat.le_of_eq touches.nextBuffer.symm

/-- A buffer stays in its memory whatever move is made. -/
theorem Houses.move (houses : before.Houses memory buffer) (orderly : before.Orderly)
    (moved : before.Move caches after) : after.Houses memory buffer := by
  refine ⟨Nat.lt_of_lt_of_le houses.older moved.nextBuffer, ?_⟩
  intro number block' held present
  obtain ⟨block, held, present, same⟩ :=
    moved.retains orderly houses.older number block' held present
  obtain ⟨known, own⟩ := houses.belongs number block held present
  unfold Belongs
  rw [same, moved.extends.source _ known]
  exact ⟨Nat.lt_of_lt_of_le known moved.extends.nextProvider, own⟩

/-- A buffer stays in its memory over any number of moves. -/
theorem Houses.follows (houses : before.Houses memory buffer) (reachable : before.Reachable caches)
    (follows : before.Follows caches after) : after.Houses memory buffer := by
  induction follows with
  | refl => exact houses
  | tail earlier moved ih => exact ih.move (reachable.follows earlier).owned.orderly moved

/-- A buffer in one memory owns no block of another. -/
theorem Houses.foreign {other : Backend} (houses : world.Houses other buffer)
    (different : other ≠ memory) (number : Nat) (block : Block)
    (held : world.blockNumber? buffer = some number)
    (present : world.blocks[number]? = some block) :
    (world.providers block.provider).source.memory ≠ memory := by
  rwa [(houses.belongs number block held present).2]

/-- A new buffer owns the block that it was made for. -/
theorem blockNumber?_new (numbered : ∀ live ∈ world.buffers, live.number < world.nextBuffer)
    (number : Nat) : (world.addBuffer number).blockNumber? world.nextBuffer = some number :=
  (blockNumber?_addBuffer numbered ..).trans (if_pos rfl)

/-- A buffer is made in the memory of its block. -/
theorem houses_addBlock (orderly : world.Orderly) {block : Block}
    (belongs : world.Belongs memory block) :
    (world.addBlock block).2.Houses memory world.nextBuffer := by
  refine ⟨Nat.lt_succ_self _, ?_⟩
  intro number found held present
  cases (blockNumber?_new (orderly.appendBlock block).numbered world.blocks.length).symm.trans held
  rcases getElem?_concat_cases present with older | ⟨_, rfl⟩
  · exact (Nat.lt_irrefl _ (List.getElem?_eq_some_iff.mp older).1).elim
  · exact belongs

/-- A clone owns the block that the buffer owns. -/
theorem houses_share (houses : world.Houses memory buffer) (orderly : world.Orderly) {number : Nat}
    (held : world.blockNumber? buffer = some number) :
    (world.share number).Houses memory world.nextBuffer := by
  refine ⟨Nat.lt_succ_self _, ?_⟩
  intro other found owned present
  let change (block : Block) : Block := { block with owners := block.owners + 1 }
  have shared : ((world.modifyBlock number change).addBuffer number).blockNumber?
      world.nextBuffer = some number := blockNumber?_new orderly.numbered number
  cases shared.symm.trans owned
  obtain ⟨block, _, older, same⟩ :=
    world.retains_modify buffer number change (fun _ => rfl) number found held present
  unfold Belongs
  rw [same]
  exact houses.belongs number block held older

/-- A buffer is obtained in the memory of the provider that was asked. -/
theorem houses_obtainBuffer (orderly : world.Orderly) {number : Nat}
    (known : number < world.nextProvider) (own : (world.providers number).source.memory = memory)
    {type : ElementType} {length : UInt64}
    (obtained : world.obtainBuffer number type length = (.ok buffer, after)) :
    after.Houses memory buffer := by
  have added {middle : World P} (touches : world.Touches number middle) (address : Nat) :
      (middle.addBlock { provider := number, type, address, length }).2.Houses memory
        middle.nextBuffer := by
    have belongs : world.Belongs memory { provider := number, type, address, length } :=
      ⟨known, own⟩
    exact houses_addBlock (orderly.touched touches) (belongs.touched touches)
  unfold obtainBuffer at obtained
  split at obtained
  · rcases asked : world.prepare number type with ⟨error | _, middle⟩ <;>
      rw [asked] at obtained <;>
      cases obtained
    exact added (prepared_of asked).1 _
  · rcases asked : world.request number type length with ⟨error | address, middle⟩ <;>
      rw [asked] at obtained <;>
      cases obtained
    obtain ⟨older, belongs⟩ := added (requested_of asked).1 address
    exact ⟨older, belongs⟩

/-- A buffer is allocated in the memory that was requested. -/
theorem houses_allocate (orderly : world.Orderly) {allocator : Allocator}
    (served : ∀ number, allocator.provider memory = .ok number →
      number < world.nextProvider ∧ (world.providers number).source.memory = memory)
    {length : Int64} {type : ElementType}
    (obtained : world.allocate allocator length type memory = (.ok buffer, after)) :
    after.Houses memory buffer := by
  unfold allocate at obtained
  split at obtained
  · cases obtained
  · cases found : allocator.provider memory with
    | error error =>
        rw [found] at obtained
        cases obtained
    | ok number =>
        rw [found] at obtained
        obtain ⟨known, own⟩ := served number found
        exact houses_obtainBuffer orderly known own obtained

/-- So it is if the memory was named by text. -/
theorem houses_allocateNamed (orderly : world.Orderly) {allocator : Allocator}
    (served : ∀ number, allocator.provider memory = .ok number →
      number < world.nextProvider ∧ (world.providers number).source.memory = memory)
    {length : Int64} {type backend : String} (read : Backend.parse backend = .ok memory)
    (obtained : world.allocateNamed allocator length type backend = (.ok buffer, after)) :
    after.Houses memory buffer := by
  unfold allocateNamed at obtained
  rw [read] at obtained
  dsimp only at obtained
  cases parsed : ElementType.parse type with
  | error error =>
      rw [parsed] at obtained
      cases obtained
  | ok type =>
      rw [parsed] at obtained
      exact houses_allocate orderly served obtained

end World

end TypedMemory
