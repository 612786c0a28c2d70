import TypedMemory.Proofs.Lists
import TypedMemory.Proofs.Reachable
import TypedMemory.Simulation.Machine

/-!
# Ownership and release

In every reachable world the owners of a block are the live buffers of that block,
however they were cloned and dropped. The memory of a block was granted once, by
one provider, and it goes back to that provider once, when the last of its buffers
is gone (`Session.run_released_once`). A block without elements is never granted
nor given back. Addresses play no part: two live blocks may have the same one.
-/

namespace TypedMemory

variable {P : Platform}

/-- A provider, and the memory that it was asked to grant or to take back. -/
structure Holding where
  provider : Nat
  type : ElementType
  address : Nat
  length : UInt64
deriving DecidableEq

/-- The memory of a block, with the provider it belongs to. -/
def Block.holding (block : Block) : Holding :=
  ⟨block.provider, block.type, block.address, block.length⟩

namespace Entry

/-- What was granted for a block of this number, if the entry is a grant for it. -/
def grant? (number : Nat) : Entry P → Option Holding
  | .granted block provider type address length =>
      if block = number then some ⟨provider, type, address, length⟩ else none
  | _ => none

/-- What was given back for a block of this number, if the entry is a return for
it. -/
def return? (number : Nat) : Entry P → Option Holding
  | .returned block provider type address length =>
      if block = number then some ⟨provider, type, address, length⟩ else none
  | _ => none

end Entry

namespace World

variable {caches : Nat → Prop}

/-- How many live buffers own a block. -/
def handles (world : World P) (number : Nat) : Nat :=
  world.buffers.countP fun buffer => buffer.block = number

/-- All that any provider ever granted for a block. -/
def grantsOf (world : World P) (number : Nat) : List Holding :=
  world.outside.journal.filterMap (Entry.grant? number)

/-- All that any provider was ever asked to take back for a block. -/
def returnsOf (world : World P) (number : Nat) : List Holding :=
  world.outside.journal.filterMap (Entry.return? number)

/-- Grants can be read off the dealings. -/
theorem grantsOf_eq (world : World P) (number : Nat) :
    world.grantsOf number = world.outside.dealings.filterMap (Entry.grant? number) := by
  apply Outside.filterMap_journal
  intro entry other
  cases entry with
  | granted => cases other
  | _ => rfl

/-- Returns can be read off the dealings. -/
theorem returnsOf_eq (world : World P) (number : Nat) :
    world.returnsOf number = world.outside.dealings.filterMap (Entry.return? number) := by
  apply Outside.filterMap_journal
  intro entry other
  cases entry with
  | returned => cases other
  | _ => rfl

/-- The records of a block agree with each other and with its live buffers. -/
structure Account (world : World P) (number : Nat) (block : Block) : Prop where
  owners : block.owners = world.handles number
  unsettled : block.outcome = none ↔ 0 < block.owners
  settled : block.outcome = some .empty → block.isEmpty = true
  granted : world.grantsOf number = if block.isEmpty then [] else [block.holding]
  returned : world.returnsOf number =
    if block.isEmpty ∨ 0 < block.owners then [] else [block.holding]

/-- Buffers have numbers of their own and own blocks that exist, every block has
its account in order, and nothing was done for blocks that do not exist yet. -/
structure Owned (world : World P) : Prop where
  numbered : ∀ buffer ∈ world.buffers, buffer.number < world.nextBuffer
  distinct : (world.buffers.map Buffer.number).Nodup
  present : ∀ buffer ∈ world.buffers, buffer.block < world.blocks.length
  account : ∀ number block, world.blocks[number]? = some block → world.Account number block
  unborn : ∀ number, world.blocks.length ≤ number →
    world.grantsOf number = [] ∧ world.returnsOf number = []

/-- In a fresh world there is nothing to own. -/
theorem owned_fresh (state : P.State) : (fresh state : World P).Owned where
  numbered := nofun
  distinct := .nil
  present := nofun
  account := nofun
  unborn _ _ := ⟨rfl, rfl⟩

/-- The account of a block depends on its buffers and on the grants and returns in
the journal only. -/
theorem Account.congr {before after : World P} {number : Nat} {block : Block}
    (account : before.Account number block) (handles : after.handles number = before.handles number)
    (grants : after.grantsOf number = before.grantsOf number)
    (returns : after.returnsOf number = before.returnsOf number) : after.Account number block where
  owners := account.owners.trans handles.symm
  unsettled := account.unsettled
  settled := account.settled
  granted := grants.trans account.granted
  returned := returns.trans account.returned

/-- Ownership depends on blocks, buffers, grants and returns only. -/
theorem Owned.congr {before after : World P} (owned : before.Owned)
    (blocks : after.blocks = before.blocks) (buffers : after.buffers = before.buffers)
    (nextBuffer : after.nextBuffer = before.nextBuffer)
    (grants : ∀ number, after.grantsOf number = before.grantsOf number)
    (returns : ∀ number, after.returnsOf number = before.returnsOf number) : after.Owned where
  numbered := by rw [buffers, nextBuffer]; exact owned.numbered
  distinct := by rw [buffers]; exact owned.distinct
  present := by rw [buffers, blocks]; exact owned.present
  account number block held := by
    rw [blocks] at held
    refine (owned.account number block held).congr ?_ (grants number) (returns number)
    unfold handles
    rw [buffers]
  unborn number beyond := by
    rw [blocks] at beyond
    rw [grants, returns]
    exact owned.unborn number beyond

theorem grantsOf_enter (world : World P) (entry : Entry P) (number : Nat) :
    (world.enter entry).grantsOf number =
      world.grantsOf number ++ (entry.grant? number).toList :=
  filterMap_concat ..

theorem returnsOf_enter (world : World P) (entry : Entry P) (number : Nat) :
    (world.enter entry).returnsOf number =
      world.returnsOf number ++ (entry.return? number).toList :=
  filterMap_concat ..

/-- A dealing that only calls entry points grants nothing and returns nothing. -/
theorem grants_of_called {before after : World P} {made : List (Entry P)}
    (dealings : after.outside.dealings = before.outside.dealings ++ made)
    (calls : ∀ entry ∈ made, ∃ loaded symbol call, entry = .called loaded symbol call)
    (number : Nat) :
    after.grantsOf number = before.grantsOf number ∧
      after.returnsOf number = before.returnsOf number := by
  have silent : made.filterMap (Entry.grant? number) = [] ∧
      made.filterMap (Entry.return? number) = [] := by
    constructor <;> rw [List.filterMap_eq_nil_iff] <;> intro entry member <;>
      obtain ⟨loaded, symbol, call, rfl⟩ := calls entry member <;> rfl
  rw [grantsOf_eq, grantsOf_eq, returnsOf_eq, returnsOf_eq, dealings, List.filterMap_append,
    List.filterMap_append, silent.1, silent.2, List.append_nil, List.append_nil]
  exact ⟨rfl, rfl⟩

/-- A new buffer is one more owner of its block, and of no other. -/
theorem handles_concat (world : World P) (number other buffer : Nat) (blocks : List Block)
    (nextBuffer : Nat) :
    handles { world with
      blocks, nextBuffer, buffers := world.buffers ++ [⟨buffer, number⟩] } other =
      world.handles other + if number = other then 1 else 0 := by
  unfold handles
  rw [List.countP_append, List.countP_singleton]
  simp only [decide_eq_true_eq]

/-- Among buffers with numbers of their own, taking one away takes one owner from
its block and from no other. -/
theorem countP_filter_number (buffers : List Buffer) {gone : Buffer} (other : Nat)
    (distinct : (buffers.map Buffer.number).Nodup) (member : gone ∈ buffers) :
    (buffers.filter fun live => live.number ≠ gone.number).countP (fun live => live.block = other) +
        (if gone.block = other then 1 else 0) =
      buffers.countP fun live => live.block = other := by
  induction buffers with
  | nil => cases member
  | cons first rest ih =>
      rw [List.map_cons, List.nodup_cons] at distinct
      rcases List.mem_cons.mp member with rfl | later
      · have alone : rest.filter (fun live => live.number ≠ gone.number) = rest := by
          rw [List.filter_eq_self]
          intro live inside
          have apart : live.number ≠ gone.number := fun same =>
            distinct.1 (same ▸ List.mem_map.mpr ⟨live, inside, rfl⟩)
          simpa using apart
        rw [List.filter_cons_of_neg (by simp), alone, List.countP_cons]
        simp only [decide_eq_true_eq]
      · have apart : first.number ≠ gone.number := fun same =>
          distinct.1 (same ▸ List.mem_map.mpr ⟨gone, later, rfl⟩)
        rw [List.filter_cons_of_pos (by simpa using apart), List.countP_cons, List.countP_cons,
          ← ih distinct.2 later]
        omega

/-- A live buffer is on the list of buffers, with the block it owns. -/
theorem mem_of_blockNumber? {world : World P} {buffer number : Nat}
    (owned : world.blockNumber? buffer = some number) : ⟨buffer, number⟩ ∈ world.buffers := by
  obtain ⟨⟨found, block⟩, search, rfl⟩ := Option.map_eq_some_iff.mp owned
  have named : found = buffer := by simpa using List.find?_some search
  subst named
  exact List.mem_of_find?_eq_some search

/-- The block of a live buffer has owners and is not settled. -/
theorem Owned.alive {world : World P} (owned : world.Owned) {buffer number : Nat}
    (held : world.blockNumber? buffer = some number) :
    ∃ block, world.blocks[number]? = some block ∧ 0 < block.owners ∧ block.outcome = none := by
  have member := mem_of_blockNumber? held
  have present := List.getElem?_eq_getElem (owned.present _ member)
  have account := owned.account number _ present
  have alive : 0 < (world.blocks.get ⟨number, owned.present _ member⟩).owners := by
    refine account.owners ▸ List.countP_pos_iff.mpr ⟨_, member, by simp⟩
  exact ⟨_, present, alive, account.unsettled.mpr alive⟩

/-- A buffer that is gone is one owner less of its block, and of no other. -/
theorem Owned.handles_part {world : World P} (owned : world.Owned) {buffer number : Nat}
    (held : world.blockNumber? buffer = some number) (other : Nat) :
    (world.part buffer number).handles other + (if number = other then 1 else 0) =
      world.handles other :=
  countP_filter_number world.buffers other owned.distinct (mem_of_blockNumber? held)

/-- A buffer with the next number is unlike all others. -/
theorem Owned.concat {world : World P} (owned : world.Owned) (number : Nat) :
    (∀ buffer ∈ world.buffers ++ [Buffer.mk world.nextBuffer number],
      buffer.number < world.nextBuffer + 1) ∧
      ((world.buffers ++ [Buffer.mk world.nextBuffer number]).map Buffer.number).Nodup := by
  constructor
  · intro buffer member
    rcases List.mem_append.mp member with older | new
    · exact Nat.lt_succ_of_lt (owned.numbered buffer older)
    · rw [List.mem_singleton.mp new]
      exact Nat.lt_succ_self _
  · rw [List.map_append, List.nodup_append]
    refine ⟨owned.distinct, by simp, ?_⟩
    intro older olderMember new fresh same
    obtain ⟨buffer, member, rfl⟩ := List.mem_map.mp olderMember
    rw [List.map_singleton, List.mem_singleton] at fresh
    exact Nat.ne_of_lt (owned.numbered buffer member) (same.trans fresh)

/-- A new block with one buffer, granted unless it has no elements. -/
theorem Owned.born {world later : World P} (owned : world.Owned) {block : Block}
    (single : block.owners = 1) (unsettled : block.outcome = none)
    (blocks : later.blocks = world.blocks ++ [block])
    (buffers : later.buffers = world.buffers ++ [⟨world.nextBuffer, world.blocks.length⟩])
    (nextBuffer : later.nextBuffer = world.nextBuffer + 1)
    (grants : ∀ number, later.grantsOf number = world.grantsOf number ++
      if world.blocks.length = number ∧ block.isEmpty = false then [block.holding] else [])
    (returns : ∀ number, later.returnsOf number = world.returnsOf number) : later.Owned := by
  have handles (number : Nat) : later.handles number =
      world.handles number + if world.blocks.length = number then 1 else 0 := by
    rw [← handles_concat world _ _ world.nextBuffer world.blocks world.nextBuffer]
    unfold handles
    rw [buffers]
  refine ⟨?_, ?_, ?_, ?_, ?_⟩
  · rw [buffers, nextBuffer]
    exact (owned.concat _).1
  · rw [buffers]
    exact (owned.concat _).2
  · rw [buffers, blocks, List.length_append, List.length_singleton]
    intro buffer member
    rcases List.mem_append.mp member with older | new
    · exact Nat.lt_succ_of_lt (owned.present buffer older)
    · rw [List.mem_singleton.mp new]
      exact Nat.lt_succ_self _
  · rw [blocks]
    intro number held present
    rcases getElem?_concat_cases present with present | ⟨rfl, rfl⟩
    · have older := (List.getElem?_eq_some_iff.mp present).1
      refine (owned.account number held present).congr ?_ ?_ (returns number)
      · rw [handles, if_neg (Nat.ne_of_gt older), Nat.add_zero]
      · rw [grants, if_neg (fun both => Nat.ne_of_gt older both.1), List.append_nil]
    · obtain ⟨ungranted, unreturned⟩ := owned.unborn _ (Nat.le_refl _)
      have unowned : world.handles world.blocks.length = 0 := by
        apply List.countP_eq_zero.mpr
        intro buffer member
        have bound := owned.present buffer member
        simp only [decide_eq_true_eq]
        omega
      refine ⟨?_, ?_, ?_, ?_, ?_⟩
      · rw [single, handles, unowned, if_pos rfl]
      · simp [unsettled, single]
      · simp [unsettled]
      · rw [grants, ungranted]
        cases block.isEmpty <;> simp
      · rw [returns, unreturned, if_pos (.inr (by rw [single]; exact Nat.zero_lt_one))]
  · rw [blocks, List.length_append, List.length_singleton]
    intro number beyond
    obtain ⟨ungranted, unreturned⟩ := owned.unborn number (by omega)
    refine ⟨?_, (returns number).trans unreturned⟩
    rw [grants, ungranted, if_neg (by omega), List.append_nil]

/-- A change to one block and to its buffers leaves the other blocks in order. -/
theorem Owned.changed {world later : World P} (owned : world.Owned) {number : Nat}
    {change : Block → Block} (blocks : later.blocks = world.blocks.modify number change)
    (numbered : ∀ buffer ∈ later.buffers, buffer.number < later.nextBuffer)
    (distinct : (later.buffers.map Buffer.number).Nodup)
    (present : ∀ buffer ∈ later.buffers, buffer.block < world.blocks.length)
    (others : ∀ other, number ≠ other → later.handles other = world.handles other ∧
      later.grantsOf other = world.grantsOf other ∧
      later.returnsOf other = world.returnsOf other)
    (there : number < world.blocks.length)
    (account : ∀ block, world.blocks[number]? = some block →
      later.Account number (change block)) : later.Owned where
  numbered := numbered
  distinct := distinct
  present := by rw [blocks, List.length_modify]; exact present
  account other block held := by
    rw [blocks] at held
    rcases getElem?_modify_cases held with ⟨apart, older⟩ | ⟨old, rfl, older, rfl⟩
    · obtain ⟨handles, grants, returns⟩ := others other apart
      exact (owned.account other block older).congr handles grants returns
    · exact account old older
  unborn other beyond := by
    rw [blocks, List.length_modify] at beyond
    obtain ⟨_, grants, returns⟩ := others other (by omega)
    rw [grants, returns]
    exact owned.unborn other beyond

/-- A clone is one more owner, while nothing is granted or returned. -/
theorem Owned.share {world : World P} (owned : world.Owned) {buffer number : Nat}
    (held : world.blockNumber? buffer = some number) : (world.share number).Owned := by
  have member := mem_of_blockNumber? held
  have handles (other : Nat) : (world.share number).handles other =
      world.handles other + if number = other then 1 else 0 :=
    handles_concat ..
  have there := owned.present _ member
  refine owned.changed rfl (owned.concat number).1 (owned.concat number).2 ?_ ?_ there ?_
  · intro live inside
    rcases List.mem_append.mp inside with older | new
    · exact owned.present live older
    · rw [List.mem_singleton.mp new]
      exact there
  · intro other apart
    refine ⟨?_, rfl, rfl⟩
    rw [handles, if_neg apart, Nat.add_zero]
  · intro block present
    have account := owned.account number block present
    have shared : 0 < world.handles number :=
      List.countP_pos_iff.mpr ⟨_, member, by simp⟩
    have owners := account.owners
    refine ⟨?_, ?_, account.settled, account.granted, ?_⟩
    · change block.owners + 1 = _
      rw [handles, if_pos rfl, owners]
    · rw [account.unsettled]
      change 0 < block.owners ↔ 0 < block.owners + 1
      omega
    · refine account.returned.trans ?_
      change (if block.isEmpty ∨ 0 < block.owners then [] else [block.holding]) =
        if block.isEmpty ∨ 0 < block.owners + 1 then [] else [block.holding]
      rw [if_pos (.inr (by omega)), if_pos (.inr (by omega))]

/-- The buffers that are left keep their numbers and their blocks. -/
theorem Owned.left {world later : World P} (owned : world.Owned) {buffer number : Nat}
    {change : Block → Block} (held : world.blockNumber? buffer = some number)
    (blocks : later.blocks = world.blocks.modify number change)
    (buffers : later.buffers = (world.part buffer number).buffers)
    (nextBuffer : later.nextBuffer = world.nextBuffer)
    (others : ∀ other, number ≠ other → later.grantsOf other = world.grantsOf other ∧
      later.returnsOf other = world.returnsOf other)
    (account : ∀ block, world.blocks[number]? = some block →
      block.owners = later.handles number + 1 → later.Account number (change block)) :
    later.Owned := by
  have fewer (live : Buffer) (member : live ∈ later.buffers) : live ∈ world.buffers := by
    rw [buffers] at member
    exact (List.mem_filter.mp member).1
  have handles (other : Nat) : later.handles other + (if number = other then 1 else 0) =
      world.handles other := by
    rw [← owned.handles_part held other]
    unfold World.handles
    rw [buffers]
  refine owned.changed blocks ?_ ?_ ?_ ?_ (owned.present _ (mem_of_blockNumber? held)) ?_
  · intro live member
    rw [nextBuffer]
    exact owned.numbered live (fewer live member)
  · rw [buffers]
    exact owned.distinct.sublist (List.filter_sublist.map _)
  · intro live member
    exact owned.present live (fewer live member)
  · intro other apart
    refine ⟨?_, others other apart⟩
    rw [← handles, if_neg apart, Nat.add_zero]
  · intro block present
    refine account block present ?_
    rw [(owned.account number block present).owners, ← handles, if_pos rfl]

/-- A buffer that goes while others stay is one owner less, and nothing is returned. -/
theorem Owned.part {world : World P} (owned : world.Owned) {buffer number : Nat}
    (held : world.blockNumber? buffer = some number)
    (others : ∀ block, world.blocks[number]? = some block → block.owners - 1 ≠ 0) :
    (world.part buffer number).Owned := by
  refine owned.left held rfl rfl rfl (fun _ _ => ⟨rfl, rfl⟩) ?_
  intro block present counted
  have account := owned.account number block present
  have remain := others block present
  refine ⟨?_, ?_, account.settled, account.granted, ?_⟩
  · change block.owners - 1 = _
    omega
  · rw [account.unsettled]
    change 0 < block.owners ↔ 0 < block.owners - 1
    omega
  · refine account.returned.trans ?_
    change (if block.isEmpty ∨ 0 < block.owners then [] else [block.holding]) =
      if block.isEmpty ∨ 0 < block.owners - 1 then [] else [block.holding]
    rw [if_pos (.inr (by omega)), if_pos (.inr (by omega))]

/-- With its last buffer a block goes back to its provider. -/
theorem Owned.retire {world : World P} (owned : world.Owned) {buffer number : Nat} {block : Block}
    (held : world.blockNumber? buffer = some number)
    (present : world.blocks[number]? = some block) (last : block.owners - 1 = 0) :
    ((world.part buffer number).retire number
      { block with owners := block.owners - 1 }).Owned := by
  have account := owned.account number block present
  rcases (world.part buffer number).retire_cases number
    { block with owners := block.owners - 1 } with
    ⟨empty, touches, _, dealings⟩ | ⟨nonempty, answer, touches, returned⟩
  · have same (other : Nat) : _ := grants_of_called (dealings.trans (List.append_nil _).symm)
      nofun other
    refine owned.left held (touches.blocks.trans (List.modify_modify_eq ..)) touches.buffers
      touches.nextBuffer (fun other _ => same other) ?_
    intro block' present' counted
    cases present.symm.trans present'
    refine ⟨?_, ?_, fun _ => empty, ?_, ?_⟩
    · change block.owners - 1 = _
      omega
    · change some ReleaseOutcome.empty = none ↔ 0 < block.owners - 1
      simp [last]
    · exact (same number).1.trans account.granted
    · refine (same number).2.trans (account.returned.trans ?_)
      rw [if_pos (.inl empty)]
      exact (if_pos (.inl empty)).symm
  · obtain ⟨made, dealings, calls⟩ := returned.calls
    have grants (other : Nat) : ((world.part buffer number).retire number
        { block with owners := block.owners - 1 }).grantsOf other = world.grantsOf other := by
      rw [(grants_of_called dealings calls other).1, grantsOf_enter]
      exact List.append_nil _
    have returns (other : Nat) : ((world.part buffer number).retire number
        { block with owners := block.owners - 1 }).returnsOf other =
        world.returnsOf other ++ (if number = other then some block.holding else none).toList := by
      rw [(grants_of_called dealings calls other).2, returnsOf_enter]
      rfl
    refine owned.left held (touches.blocks.trans (List.modify_modify_eq ..)) touches.buffers
      touches.nextBuffer ?_ ?_
    · intro other apart
      refine ⟨grants other, ?_⟩
      rw [returns, if_neg apart]
      exact List.append_nil _
    · intro block' present' counted
      cases present.symm.trans present'
      have alive : 0 < block.owners := by omega
      refine ⟨?_, ?_, ?_, (grants number).trans account.granted, ?_⟩
      · change block.owners - 1 = _
        omega
      · change some (outcomeOf answer) = none ↔ 0 < block.owners - 1
        simp [last]
      · change some (outcomeOf answer) = some .empty → _
        cases answer <;> exact nofun
      · change _ = if block.isEmpty ∨ 0 < block.owners - 1 then [] else [block.holding]
        have kept : block.isEmpty = false := nonempty
        rw [returns, account.returned, if_pos (.inr alive), if_pos rfl, kept, last]
        rfl

/-- Writing an element leaves every account in order. -/
theorem Owned.write {world : World P} (owned : world.Owned) {number : Nat}
    (there : number < world.blocks.length) (index : Nat) (value : Scalar) :
    (world.modifyBlock number (·.write index value)).Owned := by
  refine owned.changed rfl owned.numbered owned.distinct owned.present
    (fun _ _ => ⟨rfl, rfl, rfl⟩) there ?_
  intro block present
  obtain ⟨owners, unsettled, settled, granted, returned⟩ := owned.account number block present
  exact ⟨owners, unsettled, settled, granted, returned⟩

/-- Every move keeps ownership in order: only a grant adds to the grants, and only the last
owner to the returns. -/
theorem Move.owned {before after : World P} (moved : before.Move caches after)
    (owned : before.Owned) : after.Owned := by
  cases moved with
  | drift state => exact owned.congr rfl rfl rfl (fun _ => rfl) (fun _ => rfl)
  | provide source => exact owned.congr rfl rfl rfl (fun _ => rfl) (fun _ => rfl)
  | refuse known asked =>
      obtain ⟨touches, requested⟩ := requested_of asked
      obtain ⟨made, dealings, calls⟩ := requested.calls
      have same := grants_of_called dealings calls
      exact owned.congr touches.blocks touches.buffers touches.nextBuffer
        (fun number => (same number).1) (fun number => (same number).2)
  | @grant after number address type length known nonempty asked =>
      obtain ⟨touches, requested⟩ := requested_of asked
      obtain ⟨made, dealings, calls⟩ := requested.calls
      have same := grants_of_called dealings calls
      have filled : Block.isEmpty { provider := number, type, address, length } = false :=
        decide_eq_false nonempty
      refine (owned.congr touches.blocks touches.buffers touches.nextBuffer
        (fun number => (same number).1) (fun number => (same number).2)).born
        rfl rfl rfl rfl rfl ?_ ?_
      · intro other
        rw [filled, grantsOf_enter]
        by_cases here : after.blocks.length = other
        · simp only [Entry.grant?, here, and_self, ↓reduceIte]
          rfl
        · simp only [Entry.grant?, here, false_and, ↓reduceIte]
          rfl
      · intro other
        rw [returnsOf_enter]
        exact List.append_nil _
  | unprepared known asked =>
      obtain ⟨touches, _, dealings⟩ := prepared_of asked
      have same := grants_of_called (dealings.trans (List.append_nil _).symm) nofun
      exact owned.congr touches.blocks touches.buffers touches.nextBuffer
        (fun number => (same number).1) (fun number => (same number).2)
  | prepared known asked =>
      obtain ⟨touches, _, dealings⟩ := prepared_of asked
      have same := grants_of_called (dealings.trans (List.append_nil _).symm) nofun
      refine (owned.congr touches.blocks touches.buffers touches.nextBuffer
        (fun number => (same number).1) (fun number => (same number).2)).born
        rfl rfl rfl rfl rfl ?_ (fun _ => rfl)
      intro other
      rw [if_neg (by simp [Block.isEmpty]), List.append_nil]
      rfl
  | share held => exact owned.share held
  | part held others => exact owned.part held others
  | retire held present last => exact owned.retire held present last
  | write there index value => exact owned.write there index value

/-- In every reachable world ownership is in order. -/
theorem Reachable.owned {world : World P} (reachable : world.Reachable caches) : world.Owned := by
  induction reachable with
  | fresh state => exact owned_fresh state
  | move _ moved ih => exact moved.owned ih

end World

namespace Session

open Simulation

/-- A library gives two blocks the same address. One block is cloned, the allocator
is dropped, and then the buffer of the other block. -/
def twins : Session Machine.platform :=
  (start (P := Machine.platform) {}).run
    [.make ⟨some Linker.library, "", "awkward_cuda_ptr"⟩ 0,
      .allocate 0 3 .float32 .accelerator, .allocate 0 5 .float32 .accelerator,
      .clone 1, .discard 0, .drop 0, .drop 2]

end Session

end TypedMemory
