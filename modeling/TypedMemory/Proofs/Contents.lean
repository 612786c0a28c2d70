import TypedMemory.Proofs.Lists
import TypedMemory.Proofs.Reachable

/-!
# What blocks contain

A write goes through a buffer to the block that the buffer owns, and takes effect if the
block is in host memory, is long enough, and has elements of the type. No other step changes
what a block contains (`Session.step_continues`). So the element at an index is what was last
written there, through whatever buffer, or zero (`Session.run_element`).
-/

namespace TypedMemory

variable {P : Platform}

/-- An element that was written: the number of the block, the index, and the value. -/
structure Writing where
  block : Nat
  index : Nat
  value : Scalar
deriving Repr, DecidableEq

namespace World

/-- The writing that a write through a buffer comes to, if it takes effect. -/
def writing? (world : World P) (buffer index : Nat) (value : Scalar) : Option Writing :=
  (world.blockNumber? buffer).bind fun number => world.blocks[number]?.bind fun block =>
    if world.backendOf block = .host ∧ index < block.length.toNat ∧ value.type = block.type then
      some ⟨number, index, value⟩
    else none

/-- Only the host has memory that can be read and written. -/
theorem isHostAccessible_iff (world : World P) (block : Block) :
    (world.backendOf block).isHostAccessible = true ↔ world.backendOf block = .host := by
  cases world.backendOf block <;> decide

/-- A write takes effect exactly if there is something to write to. -/
theorem write?_eq_map (world : World P) (buffer index : Nat) (value : Scalar) :
    world.write? buffer index value = (world.writing? buffer index value).map fun made =>
      world.modifyBlock made.block (·.write made.index made.value) := by
  unfold write? writing?
  cases world.blockNumber? buffer with
  | none => rfl
  | some number =>
      dsimp only [Option.bind_some]
      cases world.blocks[number]? with
      | none => rfl
      | some block =>
          simp only [Option.bind_some, isHostAccessible_iff]
          split <;> rfl

end World

namespace Block

/-- The same block later: where it was, with some elements more on record as written. -/
structure Continues (more : List (Nat × Scalar)) (block later : Block) : Prop where
  provider : later.provider = block.provider
  type : later.type = block.type
  address : later.address = block.address
  length : later.length = block.length
  written : later.written = more ++ block.written
  unsettled : later.outcome = none → block.outcome = none

theorem Continues.refl (block : Block) : block.Continues [] block :=
  ⟨rfl, rfl, rfl, rfl, rfl, id⟩

end Block

namespace Writing

/-- What a writing adds to the record of a block. -/
def addsTo (number : Nat) (made : Option Writing) : List (Nat × Scalar) :=
  (made.toList.filter (·.block = number)).map fun writing => (writing.index, writing.value)

/-- What was last written at an index of a block, if anything was. -/
def last? (history : List Writing) (number index : Nat) : Option Scalar :=
  (history.filter fun made => made.block = number ∧ made.index = index).getLast?.map value

variable {history : List Writing} {number index : Nat}

/-- Where nothing was written, nothing is the last thing written. -/
theorem last?_eq_none (elsewhere : ∀ made ∈ history, made.block ≠ number) :
    last? history number index = none := by
  have nowhere : history.filter (fun made => made.block = number ∧ made.index = index) = [] := by
    refine List.filter_eq_nil_iff.mpr fun made member => ?_
    simp [elsewhere made member]
  rw [last?, nowhere]
  rfl

/-- The latest writing counts at its place, and the earlier ones elsewhere. -/
theorem last?_concat (history : List Writing) (made : Writing) (number index : Nat) :
    last? (history ++ [made]) number index =
      if made.block = number ∧ made.index = index then some made.value
      else last? history number index := by
  unfold last?
  rw [List.filter_append]
  split
  · next here => simp [here]
  · next elsewhere => simp [elsewhere]

end Writing

namespace Block

variable {block later : Block} {number index : Nat}

/-- An element that was just written is what was written. -/
theorem Continues.element_written {made : Writing}
    (continues : block.Continues (Writing.addsTo number (some made)) later)
    (here : made.block = number) : later.element made.index = made.value := by
  rw [element, continues.written]
  simp [Writing.addsTo, here]

/-- An element that was not just written is what it was. -/
theorem Continues.element_other {made : Option Writing}
    (continues : block.Continues (Writing.addsTo number made) later)
    (elsewhere : ∀ writing, made = some writing →
      ¬(writing.block = number ∧ writing.index = index)) :
    later.element index = block.element index := by
  rw [element, element, continues.written, continues.type]
  cases made with
  | none => rfl
  | some writing =>
      by_cases here : writing.block = number
      · have other : index ≠ writing.index := fun same => elsewhere _ rfl ⟨here, same.symm⟩
        simp [Writing.addsTo, here, List.lookup_cons, beq_false_of_ne other]
      · simp [Writing.addsTo, here]

end Block

namespace World

/-- What is left of a world in a later one. Every buffer is left but the one that is gone, and
every block, with a writing on record. At most one block is new, and nobody has written to
it. -/
structure Continues (made : Option Writing) (gone : Option Nat) (before after : World P) :
    Prop where
  buffer : ∀ live ∈ before.buffers, gone ≠ some live.number → live ∈ after.buffers
  longer : before.blocks.length ≤ after.blocks.length
  block : ∀ number later, after.blocks[number]? = some later →
    (∃ block, before.blocks[number]? = some block ∧
      block.Continues (Writing.addsTo number made) later) ∨
    number = before.blocks.length ∧ later.written = []

variable {before after world : World P} {number buffer : Nat} {gone : Option Nat}

/-- A change elsewhere writes nothing and takes no buffer away. -/
theorem continues_same (blocks : after.blocks = before.blocks)
    (buffers : after.buffers = before.buffers) : Continues none gone before after where
  buffer _ member _ := buffers ▸ member
  longer := Nat.le_of_eq (congrArg List.length blocks.symm)
  block _ later present := .inl ⟨later, blocks ▸ present, .refl later⟩

/-- A new block with its buffer writes nothing to the others. -/
theorem continues_concat {block : Block} {live : Buffer}
    (blocks : after.blocks = before.blocks ++ [block]) (blank : block.written = [])
    (buffers : after.buffers = before.buffers ++ [live]) : Continues none gone before after where
  buffer _ member _ := buffers ▸ List.mem_append_left _ member
  longer := by
    rw [blocks, List.length_append]
    exact Nat.le_add_right ..
  block _ later present := by
    rw [blocks] at present
    rcases getElem?_concat_cases present with older | ⟨rfl, rfl⟩
    · exact .inl ⟨later, older, .refl later⟩
    · exact .inr ⟨rfl, blank⟩

/-- A change that keeps what blocks contain writes nothing. -/
theorem continues_modify {change : Block → Block}
    (blocks : after.blocks = before.blocks.modify number change)
    (changed : ∀ block : Block, block.Continues [] (change block))
    (kept : ∀ live ∈ before.buffers, gone ≠ some live.number → live ∈ after.buffers) :
    Continues none gone before after where
  buffer := kept
  longer := Nat.le_of_eq (by rw [blocks, List.length_modify])
  block _ later present := by
    rw [blocks] at present
    rcases getElem?_modify_cases present with ⟨_, older⟩ | ⟨block, rfl, older, rfl⟩
    · exact .inl ⟨later, older, .refl later⟩
    · exact .inl ⟨block, older, changed block⟩

/-- A write adds one element to one block. -/
theorem continues_write (world : World P) (made : Writing) :
    Continues (some made) gone world
      (world.modifyBlock made.block (·.write made.index made.value)) where
  buffer _ member _ := member
  longer := Nat.le_of_eq (List.length_modify ..).symm
  block number later present := by
    rcases getElem?_modify_cases present with ⟨other, older⟩ | ⟨block, rfl, older, rfl⟩
    · refine .inl ⟨later, older, ?_⟩
      have unaffected : Writing.addsTo number (some made) = [] := by
        simp [Writing.addsTo, other]
      rw [unaffected]
      exact .refl later
    · refine .inl ⟨block, older, rfl, rfl, rfl, rfl, ?_, id⟩
      simp [Writing.addsTo, Block.write]

/-- Obtaining a buffer writes nothing. -/
theorem obtainBuffer_continues (world : World P) (number : Nat) (type : ElementType)
    (length : UInt64) :
    Continues none gone world (world.obtainBuffer number type length).2 := by
  have added {middle after : World P} (touches : world.Touches number middle) {block : Block}
      (blank : block.written = []) (blocks : after.blocks = middle.blocks ++ [block])
      {live : Buffer} (buffers : after.buffers = middle.buffers ++ [live]) :
      Continues none gone world after :=
    continues_concat (touches.blocks ▸ blocks) blank (touches.buffers ▸ buffers)
  unfold obtainBuffer
  split
  · rcases asked : world.prepare number type with ⟨error | _, after⟩
    · exact continues_same (prepared_of asked).1.blocks (prepared_of asked).1.buffers
    · exact added (prepared_of asked).1 rfl rfl rfl
  · rcases asked : world.request number type length with ⟨error | address, after⟩
    · exact continues_same (requested_of asked).1.blocks (requested_of asked).1.buffers
    · exact added (requested_of asked).1 rfl rfl rfl

/-- Nor does a request. -/
theorem allocate_continues (world : World P) (allocator : Allocator) (length : Int64)
    (type : ElementType) (backend : Backend) :
    Continues none gone world (world.allocate allocator length type backend).2 := by
  unfold allocate
  split
  · exact continues_same rfl rfl
  · split
    · exact continues_same rfl rfl
    · exact world.obtainBuffer_continues ..

/-- Nor does a request by text. -/
theorem allocateNamed_continues (world : World P) (allocator : Allocator) (length : Int64)
    (type backend : String) :
    Continues none gone world (world.allocateNamed allocator length type backend).2 := by
  unfold allocateNamed
  split
  · exact continues_same rfl rfl
  · split
    · exact continues_same rfl rfl
    · exact world.allocate_continues ..

/-- A drop takes its own buffer away and no other, and writes nothing. -/
theorem drop_continues (world : World P) (buffer : Nat) :
    Continues none (some buffer) world (world.drop buffer) := by
  have kept (number : Nat) (live : Buffer) (member : live ∈ world.buffers)
      (other : some buffer ≠ some live.number) : live ∈ (world.part buffer number).buffers :=
    List.mem_filter.mpr ⟨member, decide_eq_true fun same => other (congrArg some same.symm)⟩
  rcases world.drop_cases buffer with
    ⟨_, equation⟩ | ⟨number, _, _, equation⟩ | ⟨number, block, _, _, _, equation⟩ <;> rw [equation]
  · exact continues_same rfl rfl
  · exact continues_modify rfl (fun _ => ⟨rfl, rfl, rfl, rfl, rfl, id⟩) (kept number)
  · rcases (world.part buffer number).retire_cases number { block with owners := block.owners - 1 }
      with ⟨_, touches, _⟩ | ⟨_, _, touches, _⟩ <;>
      exact continues_modify (touches.blocks.trans (List.modify_modify_eq ..))
        (fun _ => ⟨rfl, rfl, rfl, rfl, rfl, nofun⟩) (touches.buffers ▸ kept number)

/-- The elements of every block are what was last written there, and nothing was written to
blocks that do not exist yet. -/
structure Recalls (history : List Writing) (world : World P) : Prop where
  element : ∀ number block, world.blocks[number]? = some block → ∀ index,
    block.element index = (Writing.last? history number index).getD (.zero block.type)
  present : ∀ made ∈ history, made.block < world.blocks.length

/-- What was recalled before a change is recalled after it, with what the change wrote. -/
theorem Recalls.continues {history : List Writing} {made : Option Writing}
    (recalls : before.Recalls history) (continues : Continues made gone before after)
    (there : ∀ writing, made = some writing → writing.block < before.blocks.length) :
    after.Recalls (history ++ made.toList) := by
  have present (writing : Writing) (member : writing ∈ history ++ made.toList) :
      writing.block < before.blocks.length := by
    rcases List.mem_append.mp member with older | new
    · exact recalls.present writing older
    · exact there writing (Option.mem_toList.mp new)
  refine ⟨?_, fun writing member => Nat.lt_of_lt_of_le (present writing member) continues.longer⟩
  intro number later held index
  rcases continues.block number later held with ⟨block, older, same⟩ | ⟨rfl, blank⟩
  · have recalled := recalls.element number block older index
    cases made with
    | none => rwa [same.element_other nofun, Option.toList_none, List.append_nil, same.type]
    | some writing =>
        rw [Option.toList_some, Writing.last?_concat]
        split
        · next here =>
            obtain ⟨here, rfl⟩ := here
            exact same.element_written here
        · next elsewhere =>
            rw [same.type, ← recalled]
            refine same.element_other fun other found => ?_
            cases found
            exact elsewhere
  · rw [Block.element, blank,
      Writing.last?_eq_none fun writing member => Nat.ne_of_lt (present writing member)]
    rfl

end World

namespace Session

variable {session : Session P} {taken : Step P}

/-- The writing that a step comes to, if it is a write that takes effect. -/
def writing? (session : Session P) : Step P → Option Writing
  | .write buffer index value => session.world.writing? buffer index value
  | _ => none

/-- All writings that some steps come to, in order. -/
def writings (session : Session P) : List (Step P) → List Writing
  | [] => []
  | step :: steps => (session.writing? step).toList ++ (session.step step).writings steps

/-- A write takes effect on a block that a buffer owns, if the block is in host memory, is long
enough and has elements of the type. -/
theorem writing?_cases {made : Writing} (written : session.writing? taken = some made) :
    ∃ buffer block, session.world.blockNumber? buffer = some made.block ∧
      session.world.blocks[made.block]? = some block ∧
      session.world.backendOf block = .host ∧ made.index < block.length.toNat ∧
      made.value.type = block.type := by
  cases taken with
  | write buffer index value =>
      obtain ⟨number, held, found⟩ := Option.bind_eq_some_iff.mp written
      obtain ⟨block, present, chosen⟩ := Option.bind_eq_some_iff.mp found
      split at chosen
      · next fits =>
          cases chosen
          exact ⟨buffer, block, held, present, fits⟩
      · cases chosen
  | _ => cases written

/-- What is written is written to a block that exists. -/
theorem writing?_there (made : Writing) (written : session.writing? taken = some made) :
    made.block < session.world.blocks.length := by
  obtain ⟨_, _, _, present, _⟩ := writing?_cases written
  exact (List.getElem?_eq_some_iff.mp present).1

/-- A step writes what it is meant to write and takes away the buffer that it drops, and that is
all. -/
theorem step_continues (session : Session P) (taken : Step P) :
    World.Continues (session.writing? taken) taken.dropped? session.world
      (session.step taken).world := by
  cases taken with
  | drift | discard => exact World.continues_same rfl rfl
  | make registry cache =>
      dsimp only [Session.step]
      rcases addAllocator_cases session.world registry cache with
        ⟨_, _, equation⟩ | ⟨_, _, equation⟩ <;>
        rw [equation] <;>
        exact World.continues_same rfl rfl
  | allocate number length type backend =>
      dsimp only [Session.step]
      split
      · exact World.continues_same rfl rfl
      · exact session.world.allocate_continues ..
  | allocateNamed number length type backend =>
      dsimp only [Session.step]
      split
      · exact World.continues_same rfl rfl
      · rw [inWorld_world]
        exact session.world.allocateNamed_continues ..
  | clone buffer =>
      dsimp only [Session.step]
      rw [World.clone?_eq]
      cases session.world.blockNumber? buffer with
      | none => exact World.continues_same rfl rfl
      | some number =>
          exact World.continues_modify rfl (fun _ => ⟨rfl, rfl, rfl, rfl, rfl, id⟩)
            fun _ member _ => List.mem_append_left _ member
  | drop buffer => exact session.world.drop_continues buffer
  | write buffer index value =>
      dsimp only [Session.step, writing?]
      rw [World.write?_eq_map]
      cases session.world.writing? buffer index value with
      | none => exact World.continues_same rfl rfl
      | some made => exact session.world.continues_write made

/-- What a step writes is recalled after it. -/
theorem recalls_step {history : List Writing} (recalls : session.world.Recalls history)
    (taken : Step P) :
    (session.step taken).world.Recalls (history ++ (session.writing? taken).toList) :=
  recalls.continues (session.step_continues taken) writing?_there

/-- Blocks recall all that was written, through whatever buffers. -/
theorem recalls_run {history : List Writing} (recalls : session.world.Recalls history)
    (steps : List (Step P)) :
    (session.run steps).world.Recalls (history ++ session.writings steps) := by
  induction steps generalizing session history with
  | nil =>
      rw [writings, List.append_nil]
      exact recalls
  | cons taken steps ih =>
      rw [writings, ← List.append_assoc]
      exact ih (recalls_step recalls taken)

/-- The element at an index of a block is what some steps last wrote there, or zero. -/
theorem run_element (state : P.State) (steps : List (Step P)) {number : Nat} {block : Block}
    (present : ((start state).run steps).world.blocks[number]? = some block) (index : Nat) :
    block.element index =
      (Writing.last? ((start state).writings steps) number index).getD (.zero block.type) := by
  have recalls : (start state).world.Recalls [] := ⟨nofun, nofun⟩
  exact (recalls_run recalls steps).element number block present index

end Session

end TypedMemory
