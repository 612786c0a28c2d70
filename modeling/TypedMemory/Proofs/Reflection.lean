import TypedMemory.Proofs.Mirror

/-!
# What shows in a mirror

An operation on buffers of one memory goes in the mirror of that memory as it goes in
the world: the same error comes out, or both make a buffer, or both release a block in
the same way. An operation on buffers of the other memory leaves the mirror as it is.
-/

namespace TypedMemory

variable {P : Platform}

namespace World

/-- A mirror under some numbering of its blocks. -/
def Mirrored (view : Outlook P) (memory : Backend) (pairs : List (Nat × Nat))
    (full part : World P) : Prop :=
  ∃ rename, Mirrors view memory rename pairs full part

/-- The world and its mirror refuse a buffer with one error, or both make one. -/
def BothMake (view : Outlook P) (memory : Backend) (pairs : List (Nat × Nat))
    (full part : World P) (one other : Except Error Nat × World P) : Prop :=
  (∃ error, one.1 = .error error ∧ other.1 = .error error ∧
    Mirrored view memory pairs one.2 other.2) ∨
  (one.1 = .ok full.nextBuffer ∧ other.1 = .ok part.nextBuffer ∧
    Mirrored view memory (pairs ++ [(full.nextBuffer, part.nextBuffer)]) one.2 other.2)

/-- A buffer whose block, if it has one, is of another memory. -/
def Foreign (world : World P) (memory : Backend) (buffer : Nat) : Prop :=
  ∀ number block, world.blockNumber? buffer = some number → world.blocks[number]? = some block →
    (world.providers block.provider).source.memory ≠ memory

namespace Mirrors

variable {view : Outlook P} {memory : Backend} {rename : Nat → Nat} {pairs : List (Nat × Nat)}
  {full part : World P}

/-- Blocks that are alike may be added on both sides, and their buffers are paired. -/
theorem addBlock (mirrors : Mirrors view memory rename pairs full part) (orderly : full.Orderly)
    (orderly' : part.Orderly) {block block' : Block} (alike : block.Alike memory block')
    (belongs : full.Belongs memory block) :
    Mirrored view memory (pairs ++ [(full.nextBuffer, part.nextBuffer)])
      (full.addBlock block).2 (part.addBlock block').2 := by
  have added := (mirrors.appendBlock alike belongs orderly'.present).addBuffer part.blocks.length
    orderly.numbered orderly'.numbered
  rw [replace_same] at added
  exact ⟨_, added⟩

/-- A block may be added to the world alone: it has no reflection. -/
theorem addBlock_left (mirrors : Mirrors view memory rename pairs full part)
    (orderly : full.Orderly) (block : Block) :
    Mirrors view memory rename pairs (full.addBlock block).2 part :=
  (mirrors.appendBlock_left block).addBuffer_left full.blocks.length orderly.numbered

/-- A provider of the mirrored memory refuses a buffer with one error on both sides, or makes
one on both. With elements both are granted a block; without, both are only found fit to be. -/
theorem obtainBuffer (mirrors : Mirrors view memory rename pairs full part)
    (suits : view.Suits memory) (orderly : full.Orderly)
    (orderly' : part.Orderly) {number : Nat} (known : number < full.nextProvider)
    (own : (full.providers number).source.memory = memory) (type : ElementType)
    (length : UInt64) :
    BothMake view memory pairs full part (full.obtainBuffer number type length)
      (part.obtainBuffer number type length) := by
  -- Granted or not needed, the memory makes a block and a reflection of it.
  have made {after after' : World P} (touches : full.Touches number after)
      (touches' : part.Touches number after')
      (mirrors : Mirrors view memory rename pairs after after')
      {address address' : Nat} (same : memory = .accelerator → address' = address) :
      Mirrored view memory (pairs ++ [(full.nextBuffer, part.nextBuffer)])
        (after.addBlock { provider := number, type, address, length }).2
        (after'.addBlock { provider := number, type, address := address', length }).2 := by
    have belongs : full.Belongs memory { provider := number, type, address, length } :=
      ⟨known, own⟩
    rw [← touches.nextBuffer, ← touches'.nextBuffer]
    exact mirrors.addBlock (orderly.touched touches) (orderly'.touched touches')
      ⟨rfl, rfl, same, rfl, rfl, rfl, rfl⟩ (belongs.touched touches)
  unfold World.obtainBuffer
  split
  · obtain ⟨answer, after, after', asked, asked', mirrors⟩ := mirrors.prepare own type
    rw [asked, asked']
    have touches := (prepared_of asked).1
    have touches' := (prepared_of asked').1
    cases answer with
    | error error => exact .inl ⟨error, rfl, rfl, rename, mirrors⟩
    | ok _ =>
        refine .inr ⟨congrArg Except.ok touches.nextBuffer, congrArg Except.ok touches'.nextBuffer,
          made touches touches' mirrors fun _ => rfl⟩
  · rcases mirrors.request suits own type length with
      ⟨error, after, after', asked, asked', mirrors⟩ |
        ⟨address, address', after, after', asked, asked', same, mirrors⟩ <;>
      rw [asked, asked'] <;>
      have touches := (requested_of asked).1 <;>
      have touches' := (requested_of asked').1
    · exact .inl ⟨error, rfl, rfl, rename, mirrors⟩
    · obtain ⟨renamed, mirrors⟩ := made touches touches' mirrors same
      refine .inr ⟨congrArg Except.ok touches.nextBuffer, congrArg Except.ok touches'.nextBuffer,
        renamed, ?_⟩
      exact (mirrors.enter_left suits _ rfl).enter_right suits _ rfl

/-- A buffer from a provider of other memory does not show in the mirror. -/
theorem obtainBuffer_left (mirrors : Mirrors view memory rename pairs full part)
    (suits : view.Suits memory) (orderly : full.Orderly) {number : Nat}
    (foreign : (full.providers number).source.memory ≠ memory) (type : ElementType)
    (length : UInt64) :
    Mirrors view memory rename pairs (full.obtainBuffer number type length).2 part := by
  unfold World.obtainBuffer
  split
  · have kept := mirrors.prepare_left foreign type
    rcases asked : full.prepare number type with ⟨error | _, after⟩ <;> rw [asked] at kept
    · exact kept
    · exact kept.addBlock_left (orderly.touched (prepared_of asked).1) _
  · have kept := mirrors.request_left suits foreign type length
    rcases asked : full.request number type length with ⟨error | address, after⟩ <;>
      rw [asked] at kept
    · exact kept
    · have added := kept.addBlock_left (orderly.touched (requested_of asked).1)
        { provider := number, type, address, length }
      exact added.enter_left suits _ rfl

/-- A request for the mirrored memory is refused with one error on both sides, or makes a buffer
on both. -/
theorem allocate (mirrors : Mirrors view memory rename pairs full part)
    (suits : view.Suits memory) (orderly : full.Orderly)
    (orderly' : part.Orderly) {allocator : Allocator}
    (served : ∀ number, allocator.provider memory = .ok number →
      number < full.nextProvider ∧ (full.providers number).source.memory = memory)
    (length : Int64) (type : ElementType) :
    BothMake view memory pairs full part (full.allocate allocator length type memory)
      (part.allocate allocator length type memory) := by
  unfold World.allocate
  split
  · exact .inl ⟨_, rfl, rfl, rename, mirrors⟩
  · cases found : allocator.provider memory with
    | error error => exact .inl ⟨error, rfl, rfl, rename, mirrors⟩
    | ok number =>
        obtain ⟨known, own⟩ := served number found
        exact mirrors.obtainBuffer suits orderly orderly' known own type _

/-- A request for other memory does not show in the mirror. -/
theorem allocate_left (mirrors : Mirrors view memory rename pairs full part)
    (suits : view.Suits memory) (orderly : full.Orderly) {allocator : Allocator}
    {backend : Backend} (served : ∀ number, allocator.provider backend = .ok number →
      (full.providers number).source.memory ≠ memory)
    (length : Int64) (type : ElementType) :
    Mirrors view memory rename pairs (full.allocate allocator length type backend).2 part := by
  unfold World.allocate
  split
  · exact mirrors
  · cases found : allocator.provider backend with
    | error error => exact mirrors
    | ok number => exact mirrors.obtainBuffer_left suits orderly (served number found) type _

/-- A text that names no backend is refused in the mirror too. -/
theorem allocateNamed (mirrors : Mirrors view memory rename pairs full part)
    (suits : view.Suits memory) (orderly : full.Orderly)
    (orderly' : part.Orderly) {allocator : Allocator}
    (served : ∀ number, allocator.provider memory = .ok number →
      number < full.nextProvider ∧ (full.providers number).source.memory = memory)
    (length : Int64) (type : String) {backend : String}
    (own : ∀ named, Backend.parse backend = .ok named → named = memory) :
    BothMake view memory pairs full part (full.allocateNamed allocator length type backend)
      (part.allocateNamed allocator length type backend) := by
  unfold World.allocateNamed
  cases read : Backend.parse backend with
  | error error => exact .inl ⟨error, rfl, rfl, rename, mirrors⟩
  | ok named =>
      obtain rfl := own named read
      cases ElementType.parse type with
      | error error => exact .inl ⟨error, rfl, rfl, rename, mirrors⟩
      | ok type => exact mirrors.allocate suits orderly orderly' served length type

/-- Nor does a request that names other memory by text. -/
theorem allocateNamed_left (mirrors : Mirrors view memory rename pairs full part)
    (suits : view.Suits memory) (orderly : full.Orderly) {allocator : Allocator}
    {backend : String} {named : Backend} (read : Backend.parse backend = .ok named)
    (served : ∀ number, allocator.provider named = .ok number →
      (full.providers number).source.memory ≠ memory)
    (length : Int64) (type : String) :
    Mirrors view memory rename pairs (full.allocateNamed allocator length type backend).2
      part := by
  unfold World.allocateNamed
  rw [read]
  cases ElementType.parse type with
  | error error => exact mirrors
  | ok type => exact mirrors.allocate_left suits orderly served length type

/-- A block and its reflection get another owner each, and the new buffers are paired. -/
theorem share (mirrors : Mirrors view memory rename pairs full part) (orderly : full.Orderly)
    (orderly' : part.Orderly) {number : Nat} (inside : number < part.blocks.length) :
    Mirrors view memory rename (pairs ++ [(full.nextBuffer, part.nextBuffer)])
      (full.share (rename number)) (part.share number) := by
  let change (block : Block) : Block := { block with owners := block.owners + 1 }
  have alike (block block' : Block) (alike : block.Alike memory block') :
      (change block).Alike memory (change block') :=
    { alike with owners := congrArg (· + 1) alike.owners }
  have changed := mirrors.modify inside alike fun _ => rfl
  exact changed.addBuffer number orderly.numbered orderly'.numbered

/-- Another owner of a block in other memory does not show in the mirror. -/
theorem share_left (mirrors : Mirrors view memory rename pairs full part) (orderly : full.Orderly)
    {number : Nat} (foreign : ∀ block, full.blocks[number]? = some block →
      (full.providers block.provider).source.memory ≠ memory) :
    Mirrors view memory rename pairs (full.share number) part :=
  (mirrors.modify_left fun block present belongs => foreign block present belongs.2).addBuffer_left
    number orderly.numbered

/-- A block and its reflection are released with one outcome. -/
theorem release (mirrors : Mirrors view memory rename pairs full part) (suits : view.Suits memory)
    {block block' : Block} (alike : block.Alike memory block')
    (own : (full.providers block.provider).source.memory = memory) (number number' : Nat) :
    ∃ outcome after after', full.release number block = (outcome, after) ∧
      part.release number' block' = (outcome, after') ∧
      Mirrors view memory rename pairs after after' := by
  have empty : block'.isEmpty = block.isEmpty := by
    unfold Block.isEmpty
    rw [alike.length]
  unfold World.release
  rw [empty]
  split
  · exact ⟨_, _, _, rfl, rfl, mirrors⟩
  · obtain ⟨provider, type, address, length, _⟩ := alike
    rw [provider, type, length]
    have entered := (mirrors.enter_left suits (.returned number block.provider block.type
      block.address block.length) rfl).enter_right suits (.returned number' block.provider
      block.type block'.address block.length) rfl
    obtain ⟨answer, after, after', asked, asked', kept⟩ :=
      entered.giveBack own block.type address block.length
    simp only [asked, asked']
    cases answer with
    | error error =>
        exact ⟨_, _, _, rfl, rfl,
          (kept.enter_left suits _ rfl).enter_right suits _ rfl⟩
    | ok _ => exact ⟨_, _, _, rfl, rfl, kept⟩

/-- A block is retired, and its reflection. -/
theorem retire (mirrors : Mirrors view memory rename pairs full part) (suits : view.Suits memory)
    {number : Nat} (inside : number < part.blocks.length) {block block' : Block}
    (alike : block.Alike memory block')
    (own : (full.providers block.provider).source.memory = memory) :
    Mirrors view memory rename pairs (full.retire (rename number) block)
      (part.retire number block') := by
  obtain ⟨outcome, after, after', released, released', kept⟩ :=
    mirrors.release suits alike own (rename number) number
  have same : after'.blocks = part.blocks := by
    have touches := part.release_touches number block'
    rw [released'] at touches
    exact touches.blocks
  have settled : Mirrors view memory rename pairs (after.settle (rename number) outcome)
      (after'.settle number outcome) :=
    kept.modify (same ▸ inside) (fun _ _ alike => { alike with outcome := rfl }) fun _ => rfl
  unfold World.retire
  rw [released, released']
  dsimp only
  split
  · exact settled
  · exact (settled.enter_left suits _ rfl).enter_right suits _ rfl

/-- The release of a block in other memory does not show in the mirror. -/
theorem release_left (mirrors : Mirrors view memory rename pairs full part)
    (suits : view.Suits memory) {block : Block}
    (foreign : (full.providers block.provider).source.memory ≠ memory) (number : Nat) :
    Mirrors view memory rename pairs (full.release number block).2 part := by
  unfold World.release
  split
  · exact mirrors
  · have entered := mirrors.enter_left suits (.returned number block.provider block.type
      block.address block.length) rfl
    have kept := entered.giveBack_left suits foreign block.type block.address block.length
    dsimp only
    split
    · next asked =>
        rw [asked] at kept
        exact kept
    · next asked =>
        rw [asked] at kept
        exact kept.enter_left suits _ rfl

/-- Retiring a block in other memory does not show in the mirror. -/
theorem retire_left (mirrors : Mirrors view memory rename pairs full part)
    (suits : view.Suits memory) {number : Nat} {block : Block}
    (foreign : (full.providers block.provider).source.memory ≠ memory)
    (stored : ∀ block, full.blocks[number]? = some block →
      (full.providers block.provider).source.memory ≠ memory) :
    Mirrors view memory rename pairs (full.retire number block) part := by
  have kept := mirrors.release_left suits foreign number
  have touches := full.release_touches number block
  unfold World.retire
  rcases released : full.release number block with ⟨outcome, after⟩
  rw [released] at kept touches
  have settled : Mirrors view memory rename pairs (after.settle number outcome) part := by
    apply kept.modify_left
    intro block present belongs
    rw [touches.blocks] at present
    apply stored block present
    rw [← touches.source]
    exact belongs.2
  dsimp only
  split
  · exact settled
  · exact settled.enter_left suits _ rfl

/-- The block that a paired buffer owns is a reflection of the block that the other
owns. -/
theorem reflection (mirrors : Mirrors view memory rename pairs full part)
    (orderly' : part.Orderly) {pair : Nat × Nat} (paired : pair ∈ pairs) :
    (full.blockNumber? pair.1 = none ∧ part.blockNumber? pair.2 = none) ∨
      ∃ number block block', full.blockNumber? pair.1 = some (rename number) ∧
        part.blockNumber? pair.2 = some number ∧ number < part.blocks.length ∧
        full.blocks[rename number]? = some block ∧ part.blocks[number]? = some block' ∧
        block.Alike memory block' ∧ full.Belongs memory block := by
  have held := mirrors.held pair paired
  cases owned : part.blockNumber? pair.2 with
  | none =>
      rw [owned] at held
      exact .inl ⟨held, rfl⟩
  | some number =>
      rw [owned] at held
      have inside := orderly'.present _ (mem_of_blockNumber? owned)
      obtain ⟨block, found, alike, belongs⟩ :=
        mirrors.block number _ (List.getElem?_eq_getElem inside)
      exact .inr ⟨number, block, _, held, rfl, inside, found, List.getElem?_eq_getElem inside,
        alike, belongs⟩

/-- Buffers that are paired are dropped on both sides: their blocks have other owners in both,
or are retired in both. -/
theorem drop (mirrors : Mirrors view memory rename pairs full part) (suits : view.Suits memory)
    (orderly' : part.Orderly) {pair : Nat × Nat} (paired : pair ∈ pairs) :
    Mirrors view memory rename pairs (full.drop pair.1) (part.drop pair.2) := by
  rcases mirrors.reflection orderly' paired with
    ⟨absent, absent'⟩ | ⟨number, block, block', held, held', inside, found, found', alike, belongs⟩
  · rw [drop_absent absent, drop_absent absent']
    exact mirrors
  · let change (block : Block) : Block := { block with owners := block.owners - 1 }
    have fewer (block block' : Block) (alike : block.Alike memory block') :
        (change block).Alike memory (change block') :=
      { alike with owners := congrArg (· - 1) alike.owners }
    have parted : Mirrors view memory rename pairs (full.part pair.1 (rename number))
        (part.part pair.2 number) :=
      (mirrors.modify inside fewer fun _ => rfl).loseBuffer paired
    by_cases last : block.owners - 1 = 0
    · rw [drop_last held found last, drop_last held' found' (alike.owners ▸ last)]
      refine parted.retire suits ?_ (fewer block block' alike) belongs.2
      exact (List.length_modify ..).symm ▸ inside
    · have others (other : Block) (present : full.blocks[rename number]? = some other) :
          other.owners - 1 ≠ 0 := by
        cases found.symm.trans present
        exact last
      have others' (other : Block) (present : part.blocks[number]? = some other) :
          other.owners - 1 ≠ 0 := by
        cases found'.symm.trans present
        rwa [alike.owners]
      rw [drop_shared held others, drop_shared held' others']
      exact parted

/-- The drop of a buffer in other memory does not show in the mirror. -/
theorem drop_left (mirrors : Mirrors view memory rename pairs full part)
    (suits : view.Suits memory) (orderly' : part.Orderly) {buffer : Nat}
    (foreign : full.Foreign memory buffer) :
    Mirrors view memory rename pairs (full.drop buffer) part := by
  have parted {number : Nat} (held : full.blockNumber? buffer = some number) :
      Mirrors view memory rename pairs (full.part buffer number) part := by
    have lost := mirrors.loseBuffer_left
      (fun number block held present belongs => foreign number block held present belongs.2)
      orderly'.present
    exact lost.modify_left fun block present belongs =>
      foreign number block held present belongs.2
  rcases full.drop_cases buffer with
    ⟨_, equation⟩ | ⟨number, held, _, equation⟩ | ⟨number, block, held, present, _, equation⟩
  · rw [equation]
    exact mirrors
  · rw [equation]
    exact parted held
  · rw [equation]
    refine (parted held).retire_left suits (foreign number block held present) ?_
    intro stored there
    rcases getElem?_modify_cases there with ⟨apart, _⟩ | ⟨old, _, older, rfl⟩
    · exact (apart rfl).elim
    · exact foreign number old held older

end Mirrors

end World

end TypedMemory
