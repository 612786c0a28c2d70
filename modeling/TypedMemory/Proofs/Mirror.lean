import Mathlib.Data.List.Nodup
import TypedMemory.Proofs.Agreement

/-!
# Mirrors of one memory

A mirror of a world shows what belongs to one memory, that of the host or that of the
accelerator: the counters of its providers, its blocks and some of its buffers. Blocks
and buffers have other numbers in the mirror, and addresses of host memory may differ
(`World.Mirrors`). A dealing with a provider of that memory goes in the mirror as it
goes in the world, and a dealing with any other provider does not show in the mirror.

A mirror of host memory asks of the platform that the host has memory according to size
(`Platform.HostBySize`). A mirror of the accelerator asks that loaders and libraries do
not notice when host memory is obtained or released (`Platform.HostApart`).
-/

namespace TypedMemory

variable {P : Platform}

/-- Whether the entry tells of a loader or of a library: an opening, or a call. -/
def Entry.crosses : Entry P → Bool
  | .opened _ _ _ _ => true
  | .called _ _ _ => true
  | _ => false

/-- All openings and all calls, in order. -/
def Outside.crossings (outside : Outside P) : List (Entry P) :=
  outside.journal.filter Entry.crosses

/-- Whether the host has memory depends on its size and alignment only. -/
def Platform.HostBySize (P : Platform) : Prop :=
  ∀ (size alignment : Nat) (state state' : P.State),
    (P.hostAlloc size alignment state).1 = 0 ↔ (P.hostAlloc size alignment state').1 = 0

/-- Loaders and libraries answer alike in states that are alike, and a state in which
host memory was obtained or released is alike to the one before. -/
structure Platform.HostApart (P : Platform) (Alike : P.State → P.State → Prop) : Prop where
  refl : ∀ state, Alike state state
  opened : ∀ {state state'}, Alike state state' → ∀ loader path,
    (P.openLibrary loader path state).1 = (P.openLibrary loader path state').1 ∧
      Alike (P.openLibrary loader path state).2 (P.openLibrary loader path state').2
  obtained : ∀ {state state'}, Alike state state' → ∀ routine length,
    (P.callAlloc routine length state).1 = (P.callAlloc routine length state').1 ∧
      Alike (P.callAlloc routine length state).2 (P.callAlloc routine length state').2
  released : ∀ {state state'}, Alike state state' → ∀ routine address,
    Alike (P.callDealloc routine address state) (P.callDealloc routine address state')
  hostObtained : ∀ {state state'}, Alike state state' → ∀ size alignment,
    Alike (P.hostAlloc size alignment state).2 state'
  hostReleased : ∀ {state state'}, Alike state state' → ∀ address size alignment,
    Alike (P.hostFree address size alignment state) state'

/-- What loaders and libraries see of the platform, if host memory lies apart. -/
def Platform.HostApart.outlook {Alike : P.State → P.State → Prop} (apart : P.HostApart Alike)
    (fixed : P.FixedLookUps) : Outlook P where
  Alike := Alike
  seen := Entry.crosses
  opened := apart.opened
  lookedUp _ library name := fixed library name _ _
  obtained := apart.obtained
  released := apart.released
  unwarned _ _ := rfl

/-- An outlook that does not notice host memory, and sees openings and calls only. -/
structure Outlook.Secluded (view : Outlook P) : Prop where
  refl : ∀ state, view.Alike state state
  obtained : ∀ {state state'}, view.Alike state state' → ∀ size alignment,
    view.Alike (P.hostAlloc size alignment state).2 state'
  released : ∀ {state state'}, view.Alike state state' → ∀ address size alignment,
    view.Alike (P.hostFree address size alignment state) state'
  unseen : ∀ entry : Entry P, entry.crosses = false → view.seen entry = false

/-- What a mirror asks of the platform: if it is one of host memory, that the host has
memory according to size; if it is one of the accelerator, that host memory lies apart. -/
structure Outlook.Suits (view : Outlook P) (memory : Backend) : Prop where
  bySize : memory = .host → P.HostBySize
  secluded : memory = .accelerator → view.Secluded

/-- A mirror of host memory asks nothing of libraries. -/
theorem Platform.HostBySize.suits (bySize : P.HostBySize) (view : Outlook P) : view.Suits .host :=
  ⟨fun _ => bySize, nofun⟩

/-- A mirror of the accelerator asks that host memory lies apart. -/
theorem Platform.HostApart.suits {Alike : P.State → P.State → Prop} (apart : P.HostApart Alike)
    (fixed : P.FixedLookUps) : (apart.outlook fixed).Suits .accelerator :=
  ⟨nofun, fun _ => ⟨apart.refl, apart.hostObtained, apart.hostReleased, fun _ passed => passed⟩⟩

namespace HostMemory

/-- Obtaining host memory goes unnoticed. -/
theorem allocate_unnoticed {view : Outlook P} (secluded : view.Secluded) {left right : Outside P}
    (agree : view.Agree left right) (type : ElementType) (length : UInt64) (stats : Stats) :
    view.Agree (allocate type length stats left).2.2 right := by
  unfold allocate
  split
  · exact agree
  · split
    · exact agree
    · next bytes _ _ =>
        have alike : view.Agree
            { left with state := (P.hostAlloc bytes type.alignment left.state).2 } right :=
          ⟨secluded.obtained agree.state bytes type.alignment, agree.journal⟩
        dsimp only
        split
        · exact alike
        · exact alike.enter_left (secluded.unseen _ rfl)

/-- Releasing host memory goes unnoticed. -/
theorem deallocate_unnoticed {view : Outlook P} (secluded : view.Secluded)
    {left right : Outside P} (agree : view.Agree left right) (type : ElementType) (address : Nat)
    (length : UInt64) (stats : Stats) :
    view.Agree (deallocate type address length stats left).2.2 right := by
  unfold deallocate
  split
  · exact agree
  · next bytes _ =>
      have alike : view.Alike (if bytes = 0 then left.state
          else P.hostFree address bytes type.alignment left.state) right.state := by
        split
        · exact agree.state
        · exact secluded.released agree.state ..
      have freed : view.Agree { left with state := _ } right := ⟨alike, agree.journal⟩
      exact freed.enter_left (secluded.unseen _ rfl)

/-- Whether the host grants a block does not depend on what lies outside, but the
address may. -/
theorem allocate_anywhere (bySize : P.HostBySize) (type : ElementType) (length : UInt64)
    (stats : Stats) (left right : Outside P) :
    (∃ error after after', allocate type length stats left = (.error error, stats, after) ∧
      allocate type length stats right = (.error error, stats, after')) ∨
    (∃ address address' stats' after after',
      allocate type length stats left = (.ok address, stats', after) ∧
      allocate type length stats right = (.ok address', stats', after')) := by
  unfold allocate
  cases layout type length with
  | error error => exact .inl ⟨_, _, _, rfl, rfl⟩
  | ok bytes =>
      dsimp only
      by_cases none : bytes = 0
      · rw [if_pos none, if_pos none]
        exact .inr ⟨_, _, _, _, _, rfl, rfl⟩
      · rw [if_neg none, if_neg none]
        have same := bySize bytes type.alignment left.state right.state
        by_cases null : (P.hostAlloc bytes type.alignment left.state).1 = 0
        · rw [if_pos null, if_pos (same.mp null)]
          exact .inl ⟨_, _, _, rfl, rfl⟩
        · rw [if_neg null, if_neg fun null' => null (same.mpr null')]
          exact .inr ⟨_, _, _, _, _, rfl, rfl⟩

/-- The host takes a block back whatever its address. -/
theorem deallocate_anywhere (type : ElementType) (address address' : Nat) (length : UInt64)
    (stats : Stats) (left right : Outside P) :
    ∃ answer stats' after after',
      deallocate type address length stats left = (answer, stats', after) ∧
      deallocate type address' length stats right = (answer, stats', after') := by
  unfold deallocate
  cases layout type length <;> exact ⟨_, _, _, _, rfl, rfl⟩

end HostMemory

/-- The memory that a source gives. -/
def Source.memory : Source → Backend
  | .host => .host
  | .library _ _ => .accelerator

/-- The same block, but that addresses of host memory may differ. -/
structure Block.Alike (memory : Backend) (block block' : Block) : Prop where
  provider : block'.provider = block.provider
  type : block'.type = block.type
  address : memory = .accelerator → block'.address = block.address
  length : block'.length = block.length
  owners : block'.owners = block.owners
  written : block'.written = block.written
  outcome : block'.outcome = block.outcome

namespace World

/-- The world with a block more, that nobody owns yet. -/
def appendBlock (world : World P) (block : Block) : World P :=
  { world with blocks := world.blocks ++ [block] }

/-- The world with a buffer more. -/
def addBuffer (world : World P) (number : Nat) : World P :=
  { world with
    buffers := world.buffers ++ [⟨world.nextBuffer, number⟩]
    nextBuffer := world.nextBuffer + 1 }

/-- The world without a buffer. -/
def loseBuffer (world : World P) (buffer : Nat) : World P :=
  { world with buffers := world.buffers.filter fun live => live.number ≠ buffer }

/-- Buffers have numbers that were given out, and own blocks that exist. -/
structure Orderly (world : World P) : Prop where
  numbered : ∀ buffer ∈ world.buffers, buffer.number < world.nextBuffer
  present : ∀ buffer ∈ world.buffers, buffer.block < world.blocks.length

/-- Where ownership is in order, buffers are. -/
theorem Owned.orderly {world : World P} (owned : world.Owned) : world.Orderly :=
  ⟨owned.numbered, owned.present⟩

/-- A dealing with a provider leaves buffers in order. -/
theorem Orderly.touched {before after : World P} (orderly : before.Orderly) {number : Nat}
    (touches : before.Touches number after) : after.Orderly where
  numbered := by rw [touches.buffers, touches.nextBuffer]; exact orderly.numbered
  present := by rw [touches.buffers, touches.blocks]; exact orderly.present

/-- A new buffer is found under its own number, the others as before. -/
theorem blockNumber?_addBuffer {world : World P}
    (numbered : ∀ buffer ∈ world.buffers, buffer.number < world.nextBuffer) (number buffer : Nat) :
    (world.addBuffer number).blockNumber? buffer =
      if buffer = world.nextBuffer then some number else world.blockNumber? buffer := by
  unfold blockNumber? addBuffer
  rw [List.find?_append]
  by_cases new : buffer = world.nextBuffer
  · have unused : world.buffers.find? (fun live => live.number = buffer) = none := by
      rw [List.find?_eq_none]
      intro live member
      have older := numbered live member
      simp only [decide_eq_true_eq]
      omega
    rw [unused, if_pos new, new]
    simp
  · have other : ¬ world.nextBuffer = buffer := fun same => new same.symm
    simp [new, other]

/-- A buffer that is gone is not found, the others as before. -/
theorem blockNumber?_loseBuffer (world : World P) (gone buffer : Nat) :
    (world.loseBuffer gone).blockNumber? buffer =
      if buffer = gone then none else world.blockNumber? buffer := by
  unfold blockNumber? loseBuffer
  rw [List.find?_filter]
  by_cases same : buffer = gone
  · rw [if_pos same, Option.map_eq_none_iff, List.find?_eq_none]
    intro live _
    simp [same]
  · rw [if_neg same]
    congr 2
    funext live
    by_cases here : live.number = buffer
    · simp [here, same]
    · simp [here]

/-- A block of a memory: its provider was added, and is one of that memory. -/
def Belongs (world : World P) (memory : Backend) (block : Block) : Prop :=
  block.provider < world.nextProvider ∧
    (world.providers block.provider).source.memory = memory

/-- A block belongs where it did, whoever is charged. -/
theorem Belongs.charged {world : World P} {memory : Backend} {block : Block}
    (belongs : world.Belongs memory block) (number : Nat) (stats : Stats)
    (caches : Nat → Cache P) (outside : Outside P) :
    (world.charged number stats caches outside).Belongs memory block :=
  ⟨belongs.1, (congrArg Source.memory (charged_source ..)).trans belongs.2⟩

/-- A block belongs where it did after a dealing with any provider. -/
theorem Belongs.touched {before after : World P} {memory : Backend} {block : Block}
    (belongs : before.Belongs memory block) {number : Nat}
    (touches : before.Touches number after) : after.Belongs memory block := by
  unfold Belongs at belongs ⊢
  rwa [touches.nextProvider, touches.source]

/-- A mirror of what belongs to one memory. Its blocks are blocks of the world under
other numbers. Some buffers of the world are paired with buffers of the mirror. -/
structure Mirrors (view : Outlook P) (memory : Backend) (rename : Nat → Nat)
    (pairs : List (Nat × Nat)) (full part : World P) : Prop where
  around : memory = .accelerator →
    part.caches = full.caches ∧ view.Agree full.outside part.outside
  source : ∀ number, (part.providers number).source = (full.providers number).source
  nextProvider : part.nextProvider = full.nextProvider
  stats : ∀ number, (full.providers number).source.memory = memory →
    (part.providers number).stats = (full.providers number).stats
  block : ∀ (number : Nat) block', part.blocks[number]? = some block' →
    ∃ block, full.blocks[rename number]? = some block ∧ block.Alike memory block' ∧
      full.Belongs memory block
  apart : ∀ number other, number < part.blocks.length → other < part.blocks.length →
    rename number = rename other → number = other
  numbered : ∀ pair ∈ pairs, pair.1 < full.nextBuffer ∧ pair.2 < part.nextBuffer
  distinct : (pairs.map Prod.fst).Nodup ∧ (pairs.map Prod.snd).Nodup
  held : ∀ pair ∈ pairs, full.blockNumber? pair.1 = (part.blockNumber? pair.2).map rename

namespace Mirrors

variable {view : Outlook P} {memory : Backend} {rename : Nat → Nat} {pairs : List (Nat × Nat)}
  {full part : World P}

/-- A fresh world is its own mirror. -/
theorem fresh (suits : view.Suits memory) (state : P.State) :
    Mirrors view memory id [] (World.fresh state) (World.fresh state) where
  around accelerator := ⟨rfl, (suits.secluded accelerator).refl state, rfl⟩
  source _ := rfl
  nextProvider := rfl
  stats _ _ := rfl
  block := nofun
  apart _ _ inside := (Nat.not_lt_zero _ inside).elim
  numbered := nofun
  distinct := ⟨.nil, .nil⟩
  held := nofun

/-- The mirror shows the providers of the memory as they are. -/
theorem provider (mirrors : Mirrors view memory rename pairs full part) (number : Nat)
    (own : (full.providers number).source.memory = memory) :
    part.providers number = full.providers number := by
  have source := mirrors.source number
  have stats := mirrors.stats number own
  cases shown : part.providers number
  cases there : full.providers number
  rw [shown, there] at source stats
  cases source
  cases stats
  rfl

/-- A provider of the memory is charged alike in the world and in the mirror. -/
theorem charged (mirrors : Mirrors view memory rename pairs full part) {number : Nat}
    {stats : Stats} {caches caches' : Nat → Cache P} {outside outside' : Outside P}
    (around : memory = .accelerator → caches' = caches ∧ view.Agree outside outside') :
    Mirrors view memory rename pairs (full.charged number stats caches outside)
      (part.charged number stats caches' outside') where
  around := around
  source other := by rw [charged_source, charged_source, mirrors.source]
  nextProvider := mirrors.nextProvider
  stats other own := by
    rw [charged_source] at own
    rw [charged_stats, charged_stats, mirrors.stats other own]
  block number block' present := by
    obtain ⟨block, found, alike, belongs⟩ := mirrors.block number block' present
    exact ⟨block, found, alike, belongs.charged ..⟩
  apart := mirrors.apart
  numbered := mirrors.numbered
  distinct := mirrors.distinct
  held := mirrors.held

/-- If a provider of another memory is charged, that does not show. -/
theorem charged_left (mirrors : Mirrors view memory rename pairs full part) {number : Nat}
    (foreign : (full.providers number).source.memory ≠ memory) {stats : Stats}
    {caches : Nat → Cache P} {outside : Outside P}
    (around : memory = .accelerator →
      part.caches = caches ∧ view.Agree outside part.outside) :
    Mirrors view memory rename pairs (full.charged number stats caches outside) part where
  around := around
  source other := by rw [charged_source, mirrors.source]
  nextProvider := mirrors.nextProvider
  stats other own := by
    rw [charged_source] at own
    have apart : other ≠ number := fun same => foreign (same ▸ own)
    rw [charged_stats, if_neg apart, mirrors.stats other own]
  block number block' present := by
    obtain ⟨block, found, alike, belongs⟩ := mirrors.block number block' present
    exact ⟨block, found, alike, belongs.charged ..⟩
  apart := mirrors.apart
  numbered := mirrors.numbered
  distinct := mirrors.distinct
  held := mirrors.held

/-- An entry that is no opening or call may be made in the world alone. -/
theorem enter_left (mirrors : Mirrors view memory rename pairs full part)
    (suits : view.Suits memory) (entry : Entry P) (inner : entry.crosses = false) :
    Mirrors view memory rename pairs (full.enter entry) part :=
  { mirrors with
    around := fun accelerator => by
      obtain ⟨caches, agree⟩ := mirrors.around accelerator
      exact ⟨caches, agree.enter_left ((suits.secluded accelerator).unseen entry inner)⟩ }

/-- Such an entry may be made in the mirror alone. -/
theorem enter_right (mirrors : Mirrors view memory rename pairs full part)
    (suits : view.Suits memory) (entry : Entry P) (inner : entry.crosses = false) :
    Mirrors view memory rename pairs full (part.enter entry) :=
  { mirrors with
    around := fun accelerator => by
      obtain ⟨caches, agree⟩ := mirrors.around accelerator
      exact ⟨caches, agree.enter_right ((suits.secluded accelerator).unseen entry inner)⟩ }

/-- The block that a mirror has is there in the world. -/
theorem there (mirrors : Mirrors view memory rename pairs full part) {number : Nat}
    (inside : number < part.blocks.length) : rename number < full.blocks.length := by
  obtain ⟨block, present, _⟩ :=
    mirrors.block number _ (List.getElem?_eq_getElem inside)
  exact (List.getElem?_eq_some_iff.mp present).1

/-- A block and its reflection are changed in the same way. -/
theorem modify (mirrors : Mirrors view memory rename pairs full part) {number : Nat}
    (inside : number < part.blocks.length) {change : Block → Block}
    (alike : ∀ block block', block.Alike memory block' →
      (change block).Alike memory (change block'))
    (provider : ∀ block, (change block).provider = block.provider) :
    Mirrors view memory rename pairs (full.modifyBlock (rename number) change)
      (part.modifyBlock number change) :=
  { mirrors with
    block := fun other block' present => by
      rcases getElem?_modify_cases present with ⟨apart, older⟩ | ⟨old, rfl, older, rfl⟩
      · obtain ⟨block, found, same, belongs⟩ := mirrors.block other block' older
        have bound := (List.getElem?_eq_some_iff.mp older).1
        have elsewhere : rename number ≠ rename other := fun same =>
          apart (mirrors.apart number other inside bound same)
        refine ⟨block, ?_, same, belongs⟩
        exact (List.getElem?_modify_ne _ _ elsewhere).trans found
      · obtain ⟨block, found, same, belongs⟩ := mirrors.block number old older
        refine ⟨change block, ?_, alike block old same, ?_⟩
        · exact (List.getElem?_modify_eq ..).trans (congrArg (Option.map change) found)
        · unfold Belongs at belongs ⊢
          rwa [provider]
    apart := by
      intro one other
      change one < (part.blocks.modify number change).length →
        other < (part.blocks.modify number change).length → _
      rw [List.length_modify]
      exact mirrors.apart one other }

/-- A block of another memory has no reflection. -/
theorem modify_left (mirrors : Mirrors view memory rename pairs full part) {number : Nat}
    {change : Block → Block}
    (foreign : ∀ block, full.blocks[number]? = some block → ¬ full.Belongs memory block) :
    Mirrors view memory rename pairs (full.modifyBlock number change) part :=
  { mirrors with
    block := fun other block' present => by
      obtain ⟨block, found, same, belongs⟩ := mirrors.block other block' present
      have elsewhere : number ≠ rename other := by
        rintro rfl
        exact foreign block found belongs
      exact ⟨block, (List.getElem?_modify_ne _ _ elsewhere).trans found, same, belongs⟩ }

/-- A new block and its reflection. -/
theorem appendBlock (mirrors : Mirrors view memory rename pairs full part) {block block' : Block}
    (alike : block.Alike memory block') (belongs : full.Belongs memory block)
    (present : ∀ buffer ∈ part.buffers, buffer.block < part.blocks.length) :
    Mirrors view memory (replace rename part.blocks.length full.blocks.length) pairs
      (full.appendBlock block) (part.appendBlock block') where
  around := mirrors.around
  source := mirrors.source
  nextProvider := mirrors.nextProvider
  stats := mirrors.stats
  block number found told := by
    rcases getElem?_concat_cases told with older | ⟨rfl, rfl⟩
    · have inside := (List.getElem?_eq_some_iff.mp older).1
      obtain ⟨old, here, same, owner⟩ := mirrors.block number found older
      refine ⟨old, ?_, same, owner⟩
      rw [replace_other _ _ (Nat.ne_of_lt inside)]
      exact (List.getElem?_append_left (mirrors.there inside)).trans here
    · refine ⟨block, ?_, alike, belongs⟩
      rw [replace_same]
      exact List.getElem?_concat_length
  apart one other inside inside' same := by
    have bound : one < part.blocks.length + 1 := by simpa [World.appendBlock] using inside
    have bound' : other < part.blocks.length + 1 := by simpa [World.appendBlock] using inside'
    have beyond {number : Nat} (older : number < part.blocks.length) :
        rename number ≠ full.blocks.length := Nat.ne_of_lt (mirrors.there older)
    rcases Nat.lt_succ_iff_lt_or_eq.mp bound with older | rfl <;>
      rcases Nat.lt_succ_iff_lt_or_eq.mp bound' with older' | rfl
    · rw [replace_other _ _ (Nat.ne_of_lt older), replace_other _ _ (Nat.ne_of_lt older')] at same
      exact mirrors.apart one other older older' same
    · rw [replace_other _ _ (Nat.ne_of_lt older), replace_same] at same
      exact (beyond older same).elim
    · rw [replace_other _ _ (Nat.ne_of_lt older'), replace_same] at same
      exact (beyond older' same.symm).elim
    · rfl
  numbered := mirrors.numbered
  distinct := mirrors.distinct
  held pair member := by
    refine (mirrors.held pair member).trans ?_
    change _ = (part.blockNumber? pair.2).map _
    cases owned : part.blockNumber? pair.2 with
    | none => rfl
    | some number =>
        have inside := present _ (mem_of_blockNumber? owned)
        exact congrArg some (replace_other _ _ (Nat.ne_of_lt inside)).symm

/-- A block that is added to the world alone has no reflection. -/
theorem appendBlock_left (mirrors : Mirrors view memory rename pairs full part) (block : Block) :
    Mirrors view memory rename pairs (full.appendBlock block) part :=
  { mirrors with
    block := fun number block' present => by
      obtain ⟨block, found, same, belongs⟩ := mirrors.block number block' present
      have bound := (List.getElem?_eq_some_iff.mp found).1
      exact ⟨block, (List.getElem?_append_left bound).trans found, same, belongs⟩ }

/-- A new buffer of a block, and one of its reflection. -/
theorem addBuffer (mirrors : Mirrors view memory rename pairs full part) (number : Nat)
    (numbered : ∀ buffer ∈ full.buffers, buffer.number < full.nextBuffer)
    (numbered' : ∀ buffer ∈ part.buffers, buffer.number < part.nextBuffer) :
    Mirrors view memory rename (pairs ++ [(full.nextBuffer, part.nextBuffer)])
      (full.addBuffer (rename number)) (part.addBuffer number) :=
  { mirrors with
    numbered := fun pair member => by
      change pair.1 < full.nextBuffer + 1 ∧ pair.2 < part.nextBuffer + 1
      rcases List.mem_append.mp member with older | new
      · obtain ⟨bound, bound'⟩ := mirrors.numbered pair older
        omega
      · cases List.mem_singleton.mp new
        exact ⟨Nat.lt_succ_self _, Nat.lt_succ_self _⟩
    distinct := by
      rw [List.map_append, List.map_append, List.nodup_append, List.nodup_append]
      refine ⟨⟨mirrors.distinct.1, by simp, ?_⟩, ⟨mirrors.distinct.2, by simp, ?_⟩⟩ <;>
        intro older member new fresh same <;>
        obtain ⟨pair, inside, rfl⟩ := List.mem_map.mp member <;>
        rw [List.map_singleton, List.mem_singleton] at fresh <;>
        subst fresh
      · exact Nat.ne_of_lt (mirrors.numbered pair inside).1 same
      · exact Nat.ne_of_lt (mirrors.numbered pair inside).2 same
    held := fun pair member => by
      rw [blockNumber?_addBuffer numbered, blockNumber?_addBuffer numbered']
      rcases List.mem_append.mp member with older | new
      · obtain ⟨bound, bound'⟩ := mirrors.numbered pair older
        rw [if_neg (Nat.ne_of_lt bound), if_neg (Nat.ne_of_lt bound')]
        exact mirrors.held pair older
      · cases List.mem_singleton.mp new
        rw [if_pos rfl, if_pos rfl]
        rfl }

/-- A buffer that is added to the world alone is paired with none. -/
theorem addBuffer_left (mirrors : Mirrors view memory rename pairs full part) (number : Nat)
    (numbered : ∀ buffer ∈ full.buffers, buffer.number < full.nextBuffer) :
    Mirrors view memory rename pairs (full.addBuffer number) part :=
  { mirrors with
    numbered := fun pair member => by
      obtain ⟨bound, bound'⟩ := mirrors.numbered pair member
      exact ⟨Nat.lt_succ_of_lt bound, bound'⟩
    held := fun pair member => by
      rw [blockNumber?_addBuffer numbered, if_neg (Nat.ne_of_lt (mirrors.numbered pair member).1)]
      exact mirrors.held pair member }

/-- A buffer is lost, and the one that it is paired with. -/
theorem loseBuffer (mirrors : Mirrors view memory rename pairs full part) {gone : Nat × Nat}
    (paired : gone ∈ pairs) :
    Mirrors view memory rename pairs (full.loseBuffer gone.1) (part.loseBuffer gone.2) :=
  { mirrors with
    held := fun pair member => by
      rw [blockNumber?_loseBuffer, blockNumber?_loseBuffer]
      by_cases same : pair = gone
      · rw [if_pos (congrArg Prod.fst same), if_pos (congrArg Prod.snd same)]
        rfl
      · have first : pair.1 ≠ gone.1 := fun equal =>
          same (List.inj_on_of_nodup_map mirrors.distinct.1 member paired equal)
        have second : pair.2 ≠ gone.2 := fun equal =>
          same (List.inj_on_of_nodup_map mirrors.distinct.2 member paired equal)
        rw [if_neg first, if_neg second]
        exact mirrors.held pair member }

/-- A buffer of a block of another memory is paired with none. -/
theorem loseBuffer_left (mirrors : Mirrors view memory rename pairs full part) {gone : Nat}
    (foreign : ∀ number block, full.blockNumber? gone = some number →
      full.blocks[number]? = some block → ¬ full.Belongs memory block)
    (present : ∀ buffer ∈ part.buffers, buffer.block < part.blocks.length) :
    Mirrors view memory rename pairs (full.loseBuffer gone) part :=
  { mirrors with
    held := fun pair member => by
      rw [blockNumber?_loseBuffer]
      have held := mirrors.held pair member
      by_cases same : pair.1 = gone
      · rw [if_pos same]
        cases owned : part.blockNumber? pair.2 with
        | none => rfl
        | some number =>
            rw [owned, same] at held
            have inside := present _ (mem_of_blockNumber? owned)
            obtain ⟨block, found, _, belongs⟩ :=
              mirrors.block number _ (List.getElem?_eq_getElem inside)
            exact (foreign _ block held found belongs).elim
      · rw [if_neg same]
        exact held }

/-- A provider is added to the world and to the mirror. -/
theorem addProvider (mirrors : Mirrors view memory rename pairs full part) (source : Source) :
    Mirrors view memory rename pairs (full.addProvider source).2 (part.addProvider source).2 where
  around := mirrors.around
  source number := by
    by_cases new : number = full.nextProvider <;>
      simp [World.addProvider, replace, new, mirrors.nextProvider, mirrors.source]
  nextProvider := congrArg (· + 1) mirrors.nextProvider
  stats number own := by
    by_cases new : number = full.nextProvider
    · simp [World.addProvider, replace, new, mirrors.nextProvider]
    · have older : (replace full.providers full.nextProvider { source } number).source.memory =
          memory := own
      rw [replace_other _ _ new] at older
      simp [World.addProvider, replace, new, mirrors.nextProvider, mirrors.stats number older]
  block number block' present := by
    obtain ⟨block, found, alike, known, own⟩ := mirrors.block number block' present
    refine ⟨block, found, alike, Nat.lt_succ_of_lt known, ?_⟩
    change (replace full.providers full.nextProvider { source } block.provider).source.memory = _
    rw [replace_other _ _ (Nat.ne_of_lt known)]
    exact own
  apart := mirrors.apart
  numbered := mirrors.numbered
  distinct := mirrors.distinct
  held := mirrors.held

/-- The surroundings of both change to the same state. -/
theorem drift (mirrors : Mirrors view memory rename pairs full part) (suits : view.Suits memory)
    (state : P.State) :
    Mirrors view memory rename pairs (full.drift state) (part.drift state) :=
  { mirrors with
    around := fun accelerator => by
      obtain ⟨caches, agree⟩ := mirrors.around accelerator
      exact ⟨caches, agree.withState ((suits.secluded accelerator).refl state)⟩ }

/-- The provider of a number is one of host memory, or reaches one library in the world
and in the mirror. -/
theorem abreast (mirrors : Mirrors view memory rename pairs full part) {number : Nat}
    (own : (full.providers number).source.memory = memory) :
    (memory = .host ∧ (full.providers number).source = .host ∧
      (part.providers number).source = .host) ∨
    (memory = .accelerator ∧ ∃ route cache,
      view.Abreast number full part route route cache) := by
  have same := mirrors.source number
  cases source : (full.providers number).source with
  | host =>
      rw [source] at own same
      exact .inl ⟨own.symm, rfl, same⟩
  | library route cache =>
      rw [source] at same
      have stats := mirrors.stats number own
      rw [source] at own
      obtain ⟨caches, agree⟩ := mirrors.around own.symm
      exact .inr ⟨own.symm, route, cache, source, same, .refl _ route, stats, caches, agree⟩

/-- Dealings that went together keep the mirror. -/
theorem together (mirrors : Mirrors view memory rename pairs full part) {α : Type} {number : Nat}
    {one other : α × World P} (dealt : view.Together number full part one other) :
    ∃ answer after after', one = (answer, after) ∧ other = (answer, after') ∧
      Mirrors view memory rename pairs after after' := by
  obtain ⟨answer, stats, caches, outside, outside', rfl, rfl, agree⟩ := dealt
  exact ⟨answer, _, _, rfl, rfl, mirrors.charged fun _ => ⟨rfl, agree⟩⟩

/-- A provider of the mirrored memory refuses a block with one error on both sides, or grants
one on both: of the accelerator, at one address. -/
theorem request (mirrors : Mirrors view memory rename pairs full part) (suits : view.Suits memory)
    {number : Nat} (own : (full.providers number).source.memory = memory) (type : ElementType)
    (length : UInt64) :
    (∃ error after after', full.request number type length = (.error error, after) ∧
      part.request number type length = (.error error, after') ∧
      Mirrors view memory rename pairs after after') ∨
    (∃ address address' after after', full.request number type length = (.ok address, after) ∧
      part.request number type length = (.ok address', after') ∧
      (memory = .accelerator → address' = address) ∧
      Mirrors view memory rename pairs after after') := by
  rcases mirrors.abreast own with ⟨rfl, host, host'⟩ | ⟨rfl, route, cache, abreast⟩
  · have stats := mirrors.stats number own
    rcases HostMemory.allocate_anywhere (suits.bySize rfl) type length (full.providers number).stats
      full.outside part.outside with
      ⟨error, after, after', asked, asked'⟩ | ⟨address, address', _, after, after', asked, asked'⟩
    · exact .inl ⟨error, _, _, request_of_host host asked,
        request_of_host host' (by rw [stats]; exact asked'), mirrors.charged nofun⟩
    · exact .inr ⟨address, address', _, _, request_of_host host asked,
        request_of_host host' (by rw [stats]; exact asked'), nofun, mirrors.charged nofun⟩
  · obtain ⟨answer, after, after', asked, asked', kept⟩ :=
      mirrors.together (Outlook.request_together abreast type length)
    cases answer with
    | error error => exact .inl ⟨error, after, after', asked, asked', kept⟩
    | ok address => exact .inr ⟨address, address, after, after', asked, asked', fun _ => rfl, kept⟩

/-- A provider of the mirrored memory finds alike on both sides whether it could grant blocks.
-/
theorem prepare (mirrors : Mirrors view memory rename pairs full part) {number : Nat}
    (own : (full.providers number).source.memory = memory) (type : ElementType) :
    ∃ answer after after', full.prepare number type = (answer, after) ∧
      part.prepare number type = (answer, after') ∧
      Mirrors view memory rename pairs after after' := by
  rcases mirrors.abreast own with ⟨rfl, host, host'⟩ | ⟨rfl, route, cache, abreast⟩
  · have stats := mirrors.stats number own
    refine ⟨_, _, _, prepare_of_host host, prepare_of_host host', ?_⟩
    rw [stats]
    exact mirrors.charged nofun
  · exact mirrors.together (Outlook.prepare_together abreast type)

/-- A provider of the mirrored memory takes a block back, or fails to, alike on both sides. -/
theorem giveBack (mirrors : Mirrors view memory rename pairs full part) {number : Nat}
    (own : (full.providers number).source.memory = memory) (type : ElementType)
    {address address' : Nat} (same : memory = .accelerator → address' = address)
    (length : UInt64) :
    ∃ answer after after', full.giveBack number type address length = (answer, after) ∧
      part.giveBack number type address' length = (answer, after') ∧
      Mirrors view memory rename pairs after after' := by
  rcases mirrors.abreast own with ⟨rfl, host, host'⟩ | ⟨rfl, route, cache, abreast⟩
  · have stats := mirrors.stats number own
    obtain ⟨answer, _, after, after', asked, asked'⟩ := HostMemory.deallocate_anywhere type address
      address' length (full.providers number).stats full.outside part.outside
    exact ⟨answer, _, _, giveBack_of_host host asked,
      giveBack_of_host host' (by rw [stats]; exact asked'), mirrors.charged nofun⟩
  · rw [same rfl]
    exact mirrors.together (Outlook.giveBack_together abreast type address length)

/-- What a dealing with a provider of host memory leaves outside goes unnoticed, and what
one with a library leaves does not matter to host memory. -/
theorem foreign_left (mirrors : Mirrors view memory rename pairs full part) {number : Nat}
    (foreign : (full.providers number).source.memory ≠ memory) {stats : Stats}
    {caches : Nat → Cache P} {outside : Outside P}
    (host : memory = .accelerator → (full.providers number).source = .host →
      caches = full.caches ∧ (view.Agree full.outside part.outside →
        view.Agree outside part.outside)) :
    Mirrors view memory rename pairs (full.charged number stats caches outside) part := by
  refine mirrors.charged_left foreign ?_
  intro accelerator
  obtain ⟨same, agree⟩ := mirrors.around accelerator
  cases source : (full.providers number).source with
  | host =>
      obtain ⟨kept, unnoticed⟩ := host accelerator source
      exact ⟨same.trans kept.symm, unnoticed agree⟩
  | library route cache =>
      rw [source] at foreign
      exact (foreign accelerator.symm).elim

/-- A request to a provider of other memory does not show in the mirror. -/
theorem request_left (mirrors : Mirrors view memory rename pairs full part)
    (suits : view.Suits memory) {number : Nat}
    (foreign : (full.providers number).source.memory ≠ memory) (type : ElementType)
    (length : UInt64) :
    Mirrors view memory rename pairs (full.request number type length).2 part := by
  cases source : (full.providers number).source with
  | host =>
      rw [request_of_host source rfl]
      refine mirrors.foreign_left foreign fun accelerator _ => ⟨rfl, fun agree => ?_⟩
      exact HostMemory.allocate_unnoticed (suits.secluded accelerator) agree ..
  | library route cache =>
      rw [request_of_library source rfl]
      exact mirrors.foreign_left foreign fun _ host => by cases source.symm.trans host

/-- What a provider of other memory finds does not show in the mirror. -/
theorem prepare_left (mirrors : Mirrors view memory rename pairs full part) {number : Nat}
    (foreign : (full.providers number).source.memory ≠ memory) (type : ElementType) :
    Mirrors view memory rename pairs (full.prepare number type).2 part := by
  cases source : (full.providers number).source with
  | host =>
      rw [prepare_of_host source]
      exact mirrors.foreign_left foreign fun _ _ => ⟨rfl, id⟩
  | library route cache =>
      rw [prepare_of_library source rfl]
      exact mirrors.foreign_left foreign fun _ host => by cases source.symm.trans host

/-- A return to a provider of other memory does not show in the mirror. -/
theorem giveBack_left (mirrors : Mirrors view memory rename pairs full part)
    (suits : view.Suits memory) {number : Nat}
    (foreign : (full.providers number).source.memory ≠ memory) (type : ElementType)
    (address : Nat) (length : UInt64) :
    Mirrors view memory rename pairs (full.giveBack number type address length).2 part := by
  cases source : (full.providers number).source with
  | host =>
      rw [giveBack_of_host source rfl]
      refine mirrors.foreign_left foreign fun accelerator _ => ⟨rfl, fun agree => ?_⟩
      exact HostMemory.deallocate_unnoticed (suits.secluded accelerator) agree ..
  | library route cache =>
      rw [giveBack_of_library source rfl]
      exact mirrors.foreign_left foreign fun _ host => by cases source.symm.trans host

end Mirrors

end World

namespace Simulation

namespace Linker

/-- The linker's libraries have no part in host memory. -/
theorem platform_hostApart : platform.HostApart fun _ _ => True where
  refl _ := trivial
  opened _ _ _ := ⟨rfl, trivial⟩
  obtained _ _ _ := ⟨rfl, trivial⟩
  released _ _ _ := trivial
  hostObtained _ _ _ := trivial
  hostReleased _ _ _ _ := trivial

/-- The simulated host has memory according to size. -/
theorem platform_hostBySize : platform.HostBySize := by
  intro size alignment state state'
  change (Machine.hostAlloc size alignment state).1 = 0 ↔
    (Machine.hostAlloc size alignment state').1 = 0
  unfold Machine.hostAlloc
  split <;> simp

end Linker

end Simulation

end TypedMemory
