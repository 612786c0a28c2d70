import Mathlib.Data.List.Nodup
import TypedMemory.Proofs.Bytes
import TypedMemory.Proofs.Contents
import TypedMemory.Proofs.Effect

/-!
# The bytes behind blocks

The blocks in host memory that are live share the bytes of one memory. A block that is granted
comes zeroed, a write stores the bytes of an element at its place, and whatever belongs to no
live block may change at any time (`Session.Remembers`). As long as every block is granted
apart from those that are live (`Session.Parted`), the bytes at the place of an element stand
for the element (`World.Backed`). So every owner of a block reads what was last written to it
through any owner, and nothing else changes it (`Session.run_contents`).
-/

namespace TypedMemory

variable {P : Platform}

namespace Block

variable {block first second : Block} {memory : Memory} {index other : Nat}

/-- The address of an element. -/
def place (block : Block) (index : Nat) : Nat := block.address + index * block.type.size

/-- The first address beyond a block. -/
def finish (block : Block) : Nat := block.place block.length.toNat

/-- No address belongs to both blocks. -/
def Apart (first second : Block) : Prop :=
  min first.finish second.finish ≤ max first.address second.address

instance (first second : Block) : Decidable (first.Apart second) :=
  inferInstanceAs (Decidable (_ ≤ _))

theorem Apart.symm (apart : first.Apart second) : second.Apart first := by
  unfold Apart at apart ⊢
  omega

/-- An element ends where the next one begins, or before. -/
theorem place_add_size_le (before : index < other) :
    block.place index + block.type.size ≤ block.place other := by
  have below := Nat.mul_le_mul_right block.type.size (Nat.succ_le_of_lt before)
  rw [Nat.succ_mul] at below
  unfold place
  omega

theorem address_le_place (block : Block) (index : Nat) : block.address ≤ block.place index :=
  Nat.le_add_right ..

/-- What is stored within one block cannot be seen in another that is apart from it. -/
theorem Apart.load_store (apart : first.Apart second) (inside : index < first.length.toNat)
    {address : Nat} {bytes : Bytes} (above : second.address ≤ address)
    (below : address + bytes.length ≤ second.finish) :
    (memory.store address bytes).load (first.place index) first.type.size =
      memory.load (first.place index) first.type.size := by
  refine Memory.load_congr fun place after before => Memory.store_apart ?_
  have low := first.address_le_place index
  have high : first.place index + first.type.size ≤ first.finish := place_add_size_le inside
  unfold Apart at apart
  omega

/-- What is stored at the place of one element cannot be seen at that of another. -/
theorem load_store_other (different : index ≠ other) {bytes : Bytes}
    (sized : bytes.length = block.type.size) :
    (memory.store (block.place other) bytes).load (block.place index) block.type.size =
      memory.load (block.place index) block.type.size := by
  refine Memory.load_congr fun place after before => Memory.store_apart ?_
  rcases Nat.lt_or_gt_of_ne different with earlier | later
  · have below := block.place_add_size_le earlier
    omega
  · have below := block.place_add_size_le later
    omega

/-- A block that has an element at some index is not empty. -/
theorem filled_of_inside (inside : index < block.length.toNat) : block.isEmpty = false := by
  refine decide_eq_false fun empty => ?_
  rw [empty] at inside
  exact Nat.not_lt_zero _ inside

/-- Elements stay in their places. -/
theorem Continues.place {more : List (Nat × Scalar)} {later : Block}
    (continues : block.Continues more later) (index : Nat) :
    later.place index = block.place index := by
  rw [Block.place, Block.place, continues.address, continues.type]

/-- A block stays apart from what it was apart from. -/
theorem Continues.apart_iff {more : List (Nat × Scalar)} {later : Block}
    (continues : block.Continues more later) : later.Apart second ↔ block.Apart second := by
  have finish : later.finish = block.finish := by
    rw [finish, finish, continues.length, continues.place]
  rw [Apart, Apart, finish, continues.address]

end Block

namespace World

variable {before after world : World P} {number buffer : Nat} {block : Block}

/-- A block that takes up host memory: it has elements there, and owners. -/
structure Occupies (world : World P) (number : Nat) (block : Block) : Prop where
  present : world.blocks[number]? = some block
  filled : block.isEmpty = false
  alive : 0 < block.owners
  host : world.backendOf block = .host

/-- The bytes of host memory stand for the elements of the blocks that take it up, and no byte
belongs to two of these. -/
structure Backed (encoding : Encoding) (memory : Memory) (world : World P) : Prop where
  value : ∀ number block, world.Occupies number block → ∀ index < block.length.toNat,
    encoding.value block.type (memory.load (block.place index) block.type.size) =
      block.element index
  apart : ∀ number other block neighbour, world.Occupies number block →
    world.Occupies other neighbour → number ≠ other → block.Apart neighbour

/-- In a fresh world there is nothing to back. -/
theorem backed_fresh {encoding : Encoding} {memory : Memory} (state : P.State) :
    (fresh state : World P).Backed encoding memory where
  value _ _ occupies := nomatch occupies.present
  apart _ _ _ _ occupies := nomatch occupies.present

/-- Bytes that belong to no block in use may be any. -/
theorem Backed.congr {encoding : Encoding} {memory later : Memory}
    (backed : world.Backed encoding memory)
    (kept : ∀ number block, world.Occupies number block → ∀ place, block.address ≤ place →
      place < block.finish → later place = memory place) : world.Backed encoding later where
  value number block occupies index inside := by
    rw [← backed.value number block occupies index inside]
    refine congrArg _ (Memory.load_congr fun place after before => ?_)
    refine kept number block occupies place ?_ ?_
    · exact Nat.le_trans (block.address_le_place index) after
    · exact Nat.lt_of_lt_of_le before (block.place_add_size_le inside)
  apart := backed.apart

/-- A buffer on the list of buffers is live, and owns the block it has there. -/
theorem Owned.blockNumber?_of_mem (owned : world.Owned)
    (member : ⟨buffer, number⟩ ∈ world.buffers) : world.blockNumber? buffer = some number := by
  unfold blockNumber?
  cases found : world.buffers.find? fun live => live.number = buffer with
  | none => exact absurd (List.find?_eq_none.mp found _ member) (by simp)
  | some live =>
      have same : live = ⟨buffer, number⟩ :=
        List.inj_on_of_nodup_map owned.distinct (List.mem_of_find?_eq_some found) member
          (by simpa using List.find?_some found)
      rw [same, Option.map_some]

/-- An element is read if it is in host memory and the index is within the block. -/
theorem read?_eq (held : world.blockNumber? buffer = some number)
    (present : world.blocks[number]? = some block) (index : Nat) :
    world.read? buffer index =
      if world.backendOf block = .host ∧ index < block.length.toNat then some (block.element index)
      else none := by
  have found : world.block? buffer = some block := by
    rw [block?, held, Option.bind_some, present]
  simp only [read?, found, isHostAccessible_iff]

/-- The provider of a block with elements has been added. -/
theorem Reachable.known {caches : Nat → Prop} (reachable : world.Reachable caches)
    (present : world.blocks[number]? = some block) (filled : block.isEmpty = false) :
    block.provider < world.nextProvider :=
  reachable.provided block.holding ⟨block, List.mem_of_getElem? present, filled, rfl⟩

/-- A block keeps its backend. -/
theorem backendOf_extends {later : Block} (extended : before.Extends after)
    (known : block.provider < before.nextProvider) (same : later.provider = block.provider) :
    after.backendOf later = before.backendOf block := by
  rw [backendOf, backendOf, Provider.backend, Provider.backend, same,
    extended.source _ known]

end World

namespace Session

variable {encoding : Encoding} {session : Session P} {taken : Step P} {steps : List (Step P)}
  {memory before after : Memory}

/-- The block in host memory that a step makes. -/
def granted? (session : Session P) (taken : Step P) : Option Block :=
  (session.step taken).world.blocks[session.world.blocks.length]?.filter fun block =>
    (session.step taken).world.backendOf block = .host

/-- The block that a step makes in host memory is apart from all that are live there. -/
def Parts (session : Session P) (taken : Step P) : Prop :=
  ∀ new ∈ session.granted? taken, ∀ block ∈ session.world.blocks, 0 < block.owners →
    session.world.backendOf block = .host → new.Apart block

instance (session : Session P) (taken : Step P) : Decidable (session.Parts taken) :=
  inferInstanceAs (Decidable (∀ _, _))

/-- Every block that some steps make in host memory is apart from all that are live then. -/
def Parted (session : Session P) : List (Step P) → Prop
  | [] => True
  | taken :: steps => session.Parts taken ∧ (session.step taken).Parted steps

instance decidableParted : (session : Session P) → (steps : List (Step P)) →
    Decidable (session.Parted steps)
  | _, [] => inferInstanceAs (Decidable True)
  | session, taken :: steps =>
      have := decidableParted (session.step taken) steps
      inferInstanceAs (Decidable (_ ∧ _))

/-- Host memory with the block zeroed that a step makes. -/
def zeroed (session : Session P) (taken : Step P) (memory : Memory) : Memory :=
  (session.granted? taken).elim memory fun block =>
    memory.store block.address (List.replicate (block.length.toNat * block.type.size) 0)

/-- Host memory after a step. A block that is made comes zeroed, and an element that is written
is stored at its place. -/
def remember (encoding : Encoding) (session : Session P) (taken : Step P) (memory : Memory) :
    Memory :=
  (session.writing? taken).elim (session.zeroed taken memory) fun made =>
    session.world.blocks[made.block]?.elim (session.zeroed taken memory) fun block =>
      (session.zeroed taken memory).store (block.place made.index) (encoding.bytes made.value)

/-- Host memory before and after some steps. Bytes that belong to no live block may change with
every step. -/
inductive Remembers (encoding : Encoding) :
    Session P → List (Step P) → Memory → Memory → Prop
  | nil (session : Session P) (memory : Memory) : Remembers encoding session [] memory memory
  | cons {session : Session P} {taken : Step P} {steps : List (Step P)}
      {before middle after : Memory}
      (kept : ∀ number block, (session.step taken).world.Occupies number block →
        ∀ place, block.address ≤ place → place < block.finish →
          middle place = session.remember encoding taken before place)
      (rest : Remembers encoding (session.step taken) steps middle after) :
      Remembers encoding session (taken :: steps) before after

/-- A block in use after a step was in use before, or it was made by the step. -/
theorem occupies_step (sound : session.Sound fun _ => True) {number : Nat} {later : Block}
    (occupies : (session.step taken).world.Occupies number later) :
    (∃ block, session.world.Occupies number block ∧
      block.Continues (Writing.addsTo number (session.writing? taken)) later) ∨
    number = session.world.blocks.length ∧ later.written = [] ∧
      session.granted? taken = some later := by
  have owned := sound.reachable.owned
  have owned' := (sound.step taken.within_any).reachable.owned
  have extended := (step_follows sound.known taken.within_any).extends
  rcases (session.step_continues taken).block number later occupies.present with
    ⟨block, older, continues⟩ | ⟨rfl, blank⟩
  · have filled : block.isEmpty = false := by
      rw [Block.isEmpty, ← continues.length]
      exact occupies.filled
    have known := sound.reachable.known older filled
    refine .inl ⟨block, ⟨older, filled, ?_, ?_⟩, continues⟩
    · have unsettled := (owned'.account number later occupies.present).unsettled.mpr occupies.alive
      exact (owned.account number block older).unsettled.mp (continues.unsettled unsettled)
    · rw [← World.backendOf_extends extended known continues.provider]
      exact occupies.host
  · refine .inr ⟨rfl, blank, ?_⟩
    rw [granted?, occupies.present]
    exact Option.filter_some_pos (decide_eq_true occupies.host)

/-- What is written belongs to a block that is in use. -/
theorem writing?_occupies (sound : session.Sound fun _ => True) {made : Writing}
    (written : session.writing? taken = some made) :
    ∃ block, session.world.Occupies made.block block ∧ made.index < block.length.toNat ∧
      made.value.type = block.type := by
  obtain ⟨buffer, block, held, present, host, inside, typed⟩ := writing?_cases written
  obtain ⟨owner, found, alive, _⟩ := sound.reachable.owned.alive held
  cases present.symm.trans found
  exact ⟨block, ⟨present, Block.filled_of_inside inside, alive, host⟩, inside, typed⟩

/-- A block that is granted apart from the live ones is apart from every block in use. -/
theorem Parts.apart (parts : session.Parts taken) {new block : Block} {number : Nat}
    (granted : session.granted? taken = some new)
    (occupies : session.world.Occupies number block) : new.Apart block :=
  parts new granted block (List.mem_of_getElem? occupies.present) occupies.alive occupies.host

/-- Zeroing the new block does not change the others. -/
theorem value_zeroed (backed : session.world.Backed encoding memory) (parts : session.Parts taken)
    {number index : Nat} {block : Block} (occupies : session.world.Occupies number block)
    (inside : index < block.length.toNat) :
    encoding.value block.type
        ((session.zeroed taken memory).load (block.place index) block.type.size) =
      block.element index := by
  rw [← backed.value number block occupies index inside, zeroed]
  cases granted : session.granted? taken with
  | none => rfl
  | some new =>
      refine congrArg _ ((parts.apart granted occupies).symm.load_store inside (Nat.le_refl _) ?_)
      rw [List.length_replicate]
      exact Nat.le_refl _

/-- A new block reads as zeros when memory was zeroed for it. -/
theorem value_zeroed_new {new : Block} (granted : session.granted? taken = some new) {index : Nat}
    (inside : index < new.length.toNat) :
    encoding.value new.type ((session.zeroed taken memory).load (new.place index) new.type.size) =
      .zero new.type := by
  have low := new.address_le_place index
  have high : new.place index + new.type.size ≤ new.finish := new.place_add_size_le inside
  rw [← encoding.value_zeros new.type, zeroed, granted]
  refine congrArg _ (Memory.load_zeros fun place after before => ?_)
  exact Memory.store_zeros (Nat.le_trans low after) (Nat.lt_of_lt_of_le before high)

/-- A write takes place within a block that is in use, so it cannot be seen in a block apart
from that. -/
theorem load_remember_apart {made : Writing} {target block : Block}
    (written : session.writing? taken = some made)
    (occupies : session.world.Occupies made.block target) (fits : made.index < target.length.toNat)
    (typed : made.value.type = target.type) (apart : block.Apart target) {index : Nat}
    (inside : index < block.length.toNat) :
    (session.remember encoding taken memory).load (block.place index) block.type.size =
      (session.zeroed taken memory).load (block.place index) block.type.size := by
  rw [remember, written, Option.elim_some, occupies.present, Option.elim_some]
  refine apart.load_store inside (target.address_le_place _) ?_
  rw [encoding.length_bytes, typed]
  exact target.place_add_size_le fits

/-- Elements of blocks that were in use are as they were, but for the one that is written. -/
theorem value_remember (sound : session.Sound fun _ => True)
    (backed : session.world.Backed encoding memory) (parts : session.Parts taken)
    {number index : Nat} {block later : Block} (occupies : session.world.Occupies number block)
    (continues : block.Continues (Writing.addsTo number (session.writing? taken)) later)
    (inside : index < block.length.toNat) :
    encoding.value block.type
        ((session.remember encoding taken memory).load (block.place index) block.type.size) =
      later.element index := by
  have zeroed := value_zeroed backed parts occupies inside
  cases written : session.writing? taken with
  | none =>
      rw [written] at continues
      rw [remember, written, continues.element_other nofun]
      exact zeroed
  | some made =>
      rw [written] at continues
      obtain ⟨target, there, fits, typed⟩ := writing?_occupies sound written
      by_cases here : made.block = number
      · subst here
        cases occupies.present.symm.trans there.present
        have sized : (encoding.bytes made.value).length = block.type.size := by
          rw [encoding.length_bytes, typed]
        rw [remember, written, Option.elim_some, there.present, Option.elim_some]
        by_cases same : index = made.index
        · subst same
          rw [← sized, Memory.load_store, ← typed, encoding.value_bytes,
            continues.element_written rfl]
        · rw [Block.load_store_other same sized, zeroed]
          refine (continues.element_other fun other found both => ?_).symm
          cases found
          exact same both.2.symm
      · have apart := backed.apart _ _ _ _ occupies there (Ne.symm here)
        rw [load_remember_apart written there fits typed apart inside, zeroed]
        refine (continues.element_other fun other found both => ?_).symm
        cases found
        exact here both.1

/-- The elements of a new block are zeros in memory as on record: nothing can have been written
to it yet. -/
theorem value_remember_new (sound : session.Sound fun _ => True) (parts : session.Parts taken)
    {new : Block} (granted : session.granted? taken = some new) (blank : new.written = [])
    {index : Nat} (inside : index < new.length.toNat) :
    encoding.value new.type
        ((session.remember encoding taken memory).load (new.place index) new.type.size) =
      new.element index := by
  have zero : new.element index = .zero new.type := by
    rw [Block.element, blank]
    rfl
  rw [zero]
  cases written : session.writing? taken with
  | none => rw [remember, written, Option.elim_none, value_zeroed_new granted inside]
  | some made =>
      obtain ⟨target, there, fits, typed⟩ := writing?_occupies sound written
      rw [load_remember_apart written there fits typed (parts.apart granted there) inside,
        value_zeroed_new granted inside]

/-- A step keeps the bytes in agreement with the blocks. -/
theorem backed_step (sound : session.Sound fun _ => True)
    (backed : session.world.Backed encoding memory) (parts : session.Parts taken) :
    (session.step taken).world.Backed encoding (session.remember encoding taken memory) where
  value number later occupies index inside := by
    rcases occupies_step sound occupies with ⟨block, older, continues⟩ | ⟨rfl, blank, granted⟩
    · rw [continues.length] at inside
      rw [continues.place, continues.type]
      exact value_remember sound backed parts older continues inside
    · exact value_remember_new sound parts granted blank inside
  apart number other block neighbour left right different := by
    rcases occupies_step sound left with ⟨first, older, continues⟩ | ⟨rfl, _, granted⟩ <;>
      rcases occupies_step sound right with ⟨second, older', continues'⟩ | ⟨rfl, _, granted'⟩
    · have apart := backed.apart number other first second older older' different
      exact continues.apart_iff.mpr (continues'.apart_iff.mpr apart.symm).symm
    · exact continues.apart_iff.mpr (parts.apart granted' older).symm
    · exact (continues'.apart_iff.mpr (parts.apart granted older').symm).symm
    · exact (different rfl).elim

/-- A run keeps the bytes in agreement with the blocks, if blocks are granted apart from the
live ones. -/
theorem backed_run (sound : session.Sound fun _ => True)
    (backed : session.world.Backed encoding before) (parted : session.Parted steps)
    (remembers : Remembers encoding session steps before after) :
    (session.run steps).world.Backed encoding after := by
  induction remembers with
  | nil => exact backed
  | @cons session taken steps before middle after kept _ ih =>
      have backed := (backed_step sound backed parted.1).congr kept
      exact ih (sound.step taken.within_any) backed parted.2

/-- Host memory after some steps, with nothing changed that belongs to no live block. -/
def remembered (encoding : Encoding) : Session P → List (Step P) → Memory → Memory
  | _, [], memory => memory
  | session, taken :: steps, memory =>
      remembered encoding (session.step taken) steps (session.remember encoding taken memory)

/-- Memory in which nothing else changes is one of the memories that a run may leave. -/
theorem remembers_remembered (encoding : Encoding) (session : Session P) (steps : List (Step P))
    (memory : Memory) :
    Remembers encoding session steps memory (remembered encoding session steps memory) := by
  induction steps generalizing session memory with
  | nil => exact .nil session memory
  | cons taken steps ih => exact .cons (fun _ _ _ _ _ _ => rfl) (ih ..)

/-- A buffer reads the same after a step that neither drops it nor writes at the place. -/
theorem read?_step (sound : session.Sound fun _ => True) {buffer number index : Nat}
    (held : session.world.blockNumber? buffer = some number) (undropped : taken ≠ .drop buffer)
    (elsewhere : ∀ made, session.writing? taken = some made →
      ¬(made.block = number ∧ made.index = index)) :
    (session.step taken).world.read? buffer index = session.world.read? buffer index := by
  have continues := session.step_continues taken
  have owned := (sound.step taken.within_any).reachable.owned
  have kept : (session.step taken).world.blockNumber? buffer = some number :=
    owned.blockNumber?_of_mem (continues.buffer _ (World.mem_of_blockNumber? held)
      fun dropped => undropped (Step.eq_drop_of_dropped? dropped))
  obtain ⟨later, present', _⟩ := owned.alive kept
  obtain ⟨block, present, _⟩ := sound.reachable.owned.alive held
  rcases continues.block number later present' with ⟨old, older, same⟩ | ⟨new, _⟩
  · cases present.symm.trans older
    rw [World.read?_eq kept present', World.read?_eq held present, same.length,
      same.element_other elsewhere]
    by_cases inside : index < block.length.toNat
    · have extended := (step_follows sound.known taken.within_any).extends
      have known := sound.reachable.known present (Block.filled_of_inside inside)
      rw [World.backendOf_extends extended known same.provider]
    · simp [inside]
  · have there := (List.getElem?_eq_some_iff.mp present).1
    exact (Nat.ne_of_lt there new).elim

/-- **Host buffers hold what was last written.** Let every block come zeroed and apart from those
that are live. Then each owner of a block in host memory reads at every index what was last
written there through any owner, or zero, and the bytes at the place of the element stand for
the same value. The elements as a whole are these values. No step changes an element but a
write to it, as long as the buffer is not dropped. A block of the accelerator gives no view of
its elements. -/
theorem run_contents (encoding : Encoding) (state : P.State) (steps : List (Step P))
    {before memory : Memory} (parted : (start state).Parted steps)
    (remembers : Remembers encoding (start state) steps before memory) {buffer number : Nat}
    (held : ((start state).run steps).world.blockNumber? buffer = some number) :
    let session := (start state).run steps
    ∃ block, session.world.blocks[number]? = some block ∧
      let last (index : Nat) : Scalar :=
        (Writing.last? ((start state).writings steps) number index).getD (.zero block.type)
      (session.world.backendOf block = .host →
        (∀ index < block.length.toNat,
          session.world.read? buffer index = some (last index) ∧
          encoding.value block.type (memory.load (block.place index) block.type.size) =
            last index) ∧
        session.world.slice? block = some ((List.range block.length.toNat).map last) ∧
        ∀ taken index, taken ≠ .drop buffer →
          (∀ made, session.writing? taken = some made →
            ¬(made.block = number ∧ made.index = index)) →
          (session.step taken).world.read? buffer index = session.world.read? buffer index) ∧
      (session.world.backendOf block = .accelerator → session.world.slice? block = none) := by
  intro session
  have sound : session.Sound fun _ => True :=
    (start_sound state).run steps fun step _ => step.within_any
  have backed : session.world.Backed encoding memory :=
    backed_run (start_sound state) (World.backed_fresh state) parted remembers
  obtain ⟨block, present, alive, _⟩ := sound.reachable.owned.alive held
  have element (index : Nat) := run_element state steps present index
  refine ⟨block, present, fun host => ⟨fun index inside => ⟨?_, ?_⟩, ?_, ?_⟩, fun away => ?_⟩
  · rw [World.read?_eq held present, if_pos ⟨host, inside⟩, element]
  · have occupies : session.world.Occupies number block :=
      ⟨present, Block.filled_of_inside inside, alive, host⟩
    exact (backed.value number block occupies index inside).trans (element index)
  · rw [World.slice?, if_pos ((session.world.isHostAccessible_iff block).mpr host), Block.elements]
    exact congrArg some (List.map_congr_left fun index _ => element index)
  · intro taken index undropped elsewhere
    exact read?_step sound held undropped elsewhere
  · rw [World.slice?, away]
    rfl

open Simulation

/-- An element is written through a clone and then through the buffer that was cloned, which is
dropped. Another block is written in between. -/
def aliasedSteps : List (Step Machine.platform) :=
  [.make ⟨none, "", "kernel_"⟩ 0, .allocate 0 3 .int32 .host, .allocate 0 2 .uint8 .host, .clone 0,
    .write 2 1 (.int32 7), .write 1 1 (.uint8 9), .write 0 1 (.int32 (-5)), .drop 0]

/-- A clone reads what was last written through the buffer that it was cloned from, and memory
holds the bytes of it. -/
theorem aliased_contents :
    let before : Session Machine.platform := start {}
    let session := before.run aliasedSteps
    let memory := remembered .littleEndian before aliasedSteps fun _ => 0xFF
    before.Parted aliasedSteps ∧ session.world.blockNumber? 2 = some 0 ∧
    session.world.read? 2 1 = some (.int32 (-5)) ∧
    Encoding.littleEndian.value .int32 (memory.load 0x10004 4) = .int32 (-5) ∧
    ∃ block, session.world.blocks[0]? = some block ∧
      session.world.slice? block = some [.int32 0, .int32 (-5), .int32 0] := by
  intro before session memory
  have parted : before.Parted aliasedSteps := by decide +kernel
  have held : session.world.blockNumber? 2 = some 0 := by decide +kernel
  obtain ⟨block, present, host, _⟩ := run_contents .littleEndian _ aliasedSteps parted
    (remembers_remembered _ _ _ fun _ => 0xFF) held
  have found : session.world.blocks[0]? =
      some { provider := 0, type := .int32, address := 0x10000, length := 3
             written := [(1, .int32 (-5)), (1, .int32 7)] } := by decide +kernel
  cases present.symm.trans found
  obtain ⟨elements, slice, _⟩ := host (by decide +kernel)
  obtain ⟨read, bytes⟩ := elements 1 (by decide)
  have written : before.writings aliasedSteps =
      [⟨0, 1, .int32 7⟩, ⟨1, 1, .uint8 9⟩, ⟨0, 1, .int32 (-5)⟩] := by decide +kernel
  rw [written] at read bytes slice
  exact ⟨parted, held, read, bytes, _, present, slice⟩

end Session

end TypedMemory
