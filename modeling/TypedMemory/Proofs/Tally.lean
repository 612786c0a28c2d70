import Mathlib.Algebra.BigOperators.Group.List.Basic
import Mathlib.Algebra.Order.Ring.Nat
import TypedMemory.Proofs.Ownership

/-!
# Tallies of blocks

A tally sums a weight over the blocks that hold memory. The weight of a block may
depend on what it holds and on how it was settled, and on nothing else, so cloning
and writing keep every tally. Counts of live blocks and of leaked ones are tallies
(`World.Owned.countP_living`, `World.countP_leaked`).
-/

namespace TypedMemory

variable {P : Platform}

/-- The weight of a block: nothing if it holds no memory. -/
def Block.weight (weigh : Holding → Option ReleaseOutcome → Nat) (block : Block) : Nat :=
  if block.isEmpty then 0 else weigh block.holding block.outcome

namespace World

variable {caches : Nat → Prop}

/-- The sum of the weights of all blocks there ever were. -/
def tally (world : World P) (weigh : Holding → Option ReleaseOutcome → Nat) : Nat :=
  (world.blocks.map (Block.weight weigh)).sum

/-- Some block was granted this memory, whether or not it was given back. -/
def Holds (world : World P) (holding : Holding) : Prop :=
  ∃ block ∈ world.blocks, block.isEmpty = false ∧ block.holding = holding

/-- A tally depends on blocks only. -/
theorem tally_congr {before after : World P} (blocks : after.blocks = before.blocks)
    (weigh : Holding → Option ReleaseOutcome → Nat) :
    after.tally weigh = before.tally weigh := by
  unfold tally
  rw [blocks]

/-- Weights that agree on what is held add up to the same. -/
theorem tally_weigh_congr (world : World P) {weigh weigh' : Holding → Option ReleaseOutcome → Nat}
    (same : ∀ holding, world.Holds holding → weigh holding = weigh' holding) :
    world.tally weigh = world.tally weigh' := by
  unfold tally
  congr 1
  apply List.map_congr_left
  intro block member
  unfold Block.weight
  cases empty : block.isEmpty with
  | true => rfl
  | false => simp only [Bool.false_eq_true, ↓reduceIte, same _ ⟨block, member, empty, rfl⟩]

/-- What weighs nothing tallies to nothing. -/
theorem tally_eq_zero (world : World P) {weigh : Holding → Option ReleaseOutcome → Nat}
    (weightless : ∀ holding, world.Holds holding → ∀ outcome, weigh holding outcome = 0) :
    world.tally weigh = 0 := by
  rw [world.tally_weigh_congr fun holding held => funext (weightless holding held)]
  unfold tally Block.weight
  simp only [ite_self, List.map_const', List.sum_replicate_nat, Nat.mul_zero]

/-- A new block adds its weight. -/
theorem tally_concat {later : World P} (world : World P) (block : Block)
    (blocks : later.blocks = world.blocks ++ [block])
    (weigh : Holding → Option ReleaseOutcome → Nat) :
    later.tally weigh = world.tally weigh + block.weight weigh := by
  unfold tally
  rw [blocks, List.map_append, List.sum_append, List.map_singleton, List.sum_singleton]

/-- A sum over blocks changes by what one block changes. -/
theorem sum_map_modify (blocks : List Block) (weight : Block → Nat) (number : Nat)
    (change : Block → Block) {block : Block} (present : blocks[number]? = some block) :
    ((blocks.modify number change).map weight).sum + weight block =
      (blocks.map weight).sum + weight (change block) := by
  induction blocks generalizing number with
  | nil => cases present
  | cons first rest ih =>
      cases number with
      | zero =>
          cases present
          simp only [List.modify_zero_cons, List.map_cons, List.sum_cons]
          omega
      | succ number =>
          have step := ih number present
          simp only [List.modify_succ_cons, List.map_cons, List.sum_cons]
          omega

/-- A change to one block changes the tally by what it changes the weight of that block. -/
theorem tally_modify {world later : World P} {number : Nat} {change : Block → Block}
    {block : Block} (blocks : later.blocks = world.blocks.modify number change)
    (present : world.blocks[number]? = some block)
    (weigh : Holding → Option ReleaseOutcome → Nat) :
    later.tally weigh + block.weight weigh = world.tally weigh + (change block).weight weigh := by
  unfold tally
  rw [blocks]
  exact sum_map_modify world.blocks (Block.weight weigh) number change present

/-- A change that keeps what blocks hold makes no block hold anything new. -/
theorem holds_modify {world later : World P} {number : Nat} {change : Block → Block}
    (blocks : later.blocks = world.blocks.modify number change)
    (same : ∀ block, (change block).holding = block.holding) {holding : Holding}
    (held : later.Holds holding) : world.Holds holding := by
  obtain ⟨block, member, nonempty, rfl⟩ := held
  rw [blocks] at member
  obtain ⟨other, present⟩ := List.mem_iff_getElem?.mp member
  rcases getElem?_modify_cases present with ⟨_, older⟩ | ⟨old, rfl, older, rfl⟩
  · exact ⟨block, List.mem_of_getElem? older, nonempty, rfl⟩
  · have lengths : (change old).length = old.length := congrArg Holding.length (same old)
    refine ⟨old, List.mem_of_getElem? older, ?_, (same old).symm⟩
    unfold Block.isEmpty at nonempty ⊢
    rwa [← lengths]

/-- The blocks that pass a test, which is told their numbers. -/
def pick (world : World P) (test : Nat → Block → Bool) : List Block :=
  (world.blocks.zipIdx.filter fun (block, number) => test number block).map Prod.fst

/-- The blocks that some live buffer owns. -/
def living (world : World P) : List Block :=
  world.pick fun number _ => 0 < world.handles number

/-- The blocks whose release failed. -/
def leaked (world : World P) : List Block :=
  world.pick fun _ block => block.outcome = some .failed

/-- The blocks that some live buffer owns or whose release failed. -/
def outstanding (world : World P) : List Block :=
  world.pick fun number block => 0 < world.handles number ∨ block.outcome = some .failed

/-- A test that does not look at numbers picks the blocks that pass it. -/
theorem pick_eq_filter (world : World P) {test : Nat → Block → Bool} {plain : Block → Bool}
    (same : ∀ number block, world.blocks[number]? = some block → test number block = plain block) :
    world.pick test = world.blocks.filter plain := by
  unfold pick
  have agree : (world.blocks.zipIdx.filter fun entry => test entry.2 entry.1) =
      world.blocks.zipIdx.filter (plain ∘ Prod.fst) := by
    apply List.filter_congr
    rintro ⟨block, number⟩ member
    exact same number block (List.mk_mem_zipIdx_iff_getElem?.mp member)
  rw [agree, ← List.filter_map, List.zipIdx_map_fst]

variable (settled : Option ReleaseOutcome → Prop) [DecidablePred settled]
  (chosen : Holding → Prop) [DecidablePred chosen]

/-- Blocks that are picked by how they were settled add up to a tally. -/
theorem sum_pick (world : World P) {test : Nat → Block → Bool}
    (same : ∀ number block, world.blocks[number]? = some block →
      (test number block = true ↔ settled block.outcome)) (value : Holding → Nat) :
    (((world.pick test).filter fun block => block.isEmpty = false ∧ chosen block.holding).map
        fun block => value block.holding).sum =
      world.tally fun holding outcome =>
        if chosen holding ∧ settled outcome then value holding else 0 := by
  have plain : world.pick test = world.blocks.filter fun block => settled block.outcome := by
    apply world.pick_eq_filter
    intro number block present
    rw [Bool.eq_iff_iff, same number block present, decide_eq_true_eq]
  rw [plain]
  unfold tally
  generalize world.blocks = blocks
  induction blocks with
  | nil => rfl
  | cons block rest ih =>
      have weight : Block.weight (fun holding outcome =>
          if chosen holding ∧ settled outcome then value holding else 0) block =
          if settled block.outcome ∧ block.isEmpty = false ∧ chosen block.holding then
            value block.holding else 0 := by
        unfold Block.weight
        cases block.isEmpty <;> simp [and_comm]
      rw [List.map_cons, List.sum_cons, weight, ← ih, List.filter_cons]
      by_cases passes : settled block.outcome
      · by_cases counted : block.isEmpty = false ∧ chosen block.holding <;>
          simp [passes, counted]
      · simp [passes]

/-- Blocks that are picked by how they were settled are counted by a tally. -/
theorem countP_pick (world : World P) {test : Nat → Block → Bool}
    (same : ∀ number block, world.blocks[number]? = some block →
      (test number block = true ↔ settled block.outcome)) :
    ((world.pick test).countP fun block => block.isEmpty = false ∧ chosen block.holding) =
      world.tally fun holding outcome => if chosen holding ∧ settled outcome then 1 else 0 := by
  rw [← world.sum_pick settled chosen same fun _ => 1, List.countP_eq_length_filter,
    List.map_const', List.sum_replicate_nat, Nat.mul_one]

/-- In an orderly world, a block has a live buffer if and only if it was not
settled. -/
theorem Owned.live_iff {world : World P} (owned : world.Owned) {number : Nat} {block : Block}
    (present : world.blocks[number]? = some block) :
    0 < world.handles number ↔ block.outcome = none := by
  have account := owned.account number block present
  rw [account.unsettled, account.owners]

/-- The live blocks are those that were not settled. -/
theorem Owned.countP_living {world : World P} (owned : world.Owned) :
    (world.living.countP fun block => block.isEmpty = false ∧ chosen block.holding) =
      world.tally fun holding outcome => if chosen holding ∧ outcome = none then 1 else 0 := by
  apply world.countP_pick (· = none) chosen
  intro number block present
  rw [decide_eq_true_eq, owned.live_iff present]

/-- The leaked blocks are those that were settled as failed. -/
theorem countP_leaked (world : World P) :
    (world.leaked.countP fun block => block.isEmpty = false ∧ chosen block.holding) =
      world.tally fun holding outcome =>
        if chosen holding ∧ outcome = some .failed then 1 else 0 := by
  apply world.countP_pick (· = some .failed) chosen
  intro number block _
  rw [decide_eq_true_eq]

/-- What is outstanding is what is live and what leaked. -/
theorem Owned.sum_outstanding {world : World P} (owned : world.Owned) (value : Holding → Nat) :
    ((world.outstanding.filter fun block => block.isEmpty = false ∧ chosen block.holding).map
        fun block => value block.holding).sum =
      world.tally fun holding outcome =>
        if chosen holding ∧ (outcome = none ∨ outcome = some .failed) then
          value holding else 0 := by
  apply world.sum_pick (fun outcome => outcome = none ∨ outcome = some .failed) chosen
  intro number block present
  rw [decide_eq_true_eq, owned.live_iff present]

/-- Every block that holds memory was released, is leaked, or is live. -/
theorem Owned.tally_split {world : World P} (owned : world.Owned) :
    (world.tally fun holding _ => if chosen holding then 1 else 0) =
      (world.tally fun holding outcome => if chosen holding ∧ outcome = some .freed then 1 else 0) +
      (world.tally fun holding outcome =>
        if chosen holding ∧ outcome = some .failed then 1 else 0) +
      world.tally fun holding outcome => if chosen holding ∧ outcome = none then 1 else 0 := by
  unfold tally
  rw [← List.sum_map_add, ← List.sum_map_add]
  congr 1
  apply List.map_congr_left
  intro block member
  obtain ⟨number, present⟩ := List.mem_iff_getElem?.mp member
  have settled := (owned.account number block present).settled
  unfold Block.weight
  cases empty : block.isEmpty with
  | true => rfl
  | false =>
      rw [empty] at settled
      by_cases picked : chosen block.holding
      · rcases outcome : block.outcome with _ | _ | _ | _
        · simp [picked]
        · simp [picked]
        · cases settled outcome
        · simp [picked]
      · simp [picked]

end World

end TypedMemory
