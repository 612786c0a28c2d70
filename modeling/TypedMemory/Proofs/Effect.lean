import TypedMemory.Proofs.Tally

/-!
# Effects of moves on blocks

Seen from the memory that blocks hold, a move does one of four things: it adds a
provider, it changes nothing, it adds a block that was granted, or it settles a
block that was given back (`World.Move.effect`). Blocks without elements hold no
memory and do not show here. How an effect changes a tally does not depend on the
weight that is tallied.
-/

namespace TypedMemory

variable {P : Platform}

namespace World

variable {caches : Nat → Prop}

/-- What no move changes: providers keep their sources and caches their libraries. -/
structure Steady (before after : World P) : Prop where
  nextProvider : after.nextProvider = before.nextProvider
  source : ∀ number, (after.providers number).source = (before.providers number).source
  kept : ∀ cache, (before.caches cache).Keeps (after.caches cache)

/-- What a move does to the memory that blocks hold. -/
inductive Effect (caches : Nat → Prop) (before : World P) : World P → Prop
  | provided (source : Source) (allowed : source.Within caches) :
      Effect caches before (before.addProvider source).2
  /-- No block came to hold memory, and none was given back. At most, an entry
  point was called that had no memory. -/
  | idle {after : World P} (steady : before.Steady after)
      (holds : ∀ holding, after.Holds holding → before.Holds holding)
      (tally : ∀ weigh, after.tally weigh = before.tally weigh)
      (stats : ∀ number, (after.providers number).stats = (before.providers number).stats)
      (dealings : after.outside.dealings = before.outside.dealings ∨
        ∃ number type length loaded symbol route cache,
          after.Offers number type .alloc loaded symbol route cache ∧
          after.outside.dealings =
            before.outside.dealings ++ [.called loaded symbol (.alloc length 0)]) :
      Effect caches before after
  /-- A block was granted. -/
  | granted {middle after : World P} (number : Nat) (holding : Holding)
      (steady : before.Steady after) (known : holding.provider < before.nextProvider)
      (requested : before.Requested holding.provider holding.type holding.length
        (.ok holding.address) middle)
      (providers : after.providers = middle.providers)
      (caches_eq : after.caches = middle.caches)
      (others : ∀ other, other ≠ holding.provider →
        (after.providers other).stats = (before.providers other).stats)
      (holds : ∀ other, after.Holds other → other = holding ∨ before.Holds other)
      (tally : ∀ weigh, after.tally weigh = before.tally weigh + weigh holding none)
      (dealings : after.outside.dealings = middle.outside.dealings ++
        [.granted number holding.provider holding.type holding.address holding.length]) :
      Effect caches before after
  /-- A block was given back, and settled by the answer. -/
  | returned {asked after : World P} {answer : Except Error Unit} (number : Nat)
      (holding : Holding) (steady : before.Steady after) (held : before.Holds holding)
      (returned : asked.Returned holding.provider holding.type holding.address holding.length
        answer after)
      (providers : asked.providers = before.providers)
      (others : ∀ other, other ≠ holding.provider →
        (after.providers other).stats = (before.providers other).stats)
      (holds : ∀ other, after.Holds other → before.Holds other)
      (tally : ∀ weigh, after.tally weigh + weigh holding none =
        before.tally weigh + weigh holding (some (outcomeOf answer)))
      (dealings : asked.outside.dealings = before.outside.dealings ++
        [.returned number holding.provider holding.type holding.address holding.length]) :
      Effect caches before after

/-- A dealing keeps all blocks, so if it keeps its provider's counters too, it is
idle. -/
theorem Touches.idle {number : Nat} {before after : World P}
    (touches : before.Touches number after)
    (stats : (after.providers number).stats = (before.providers number).stats)
    (dealings : after.outside.dealings = before.outside.dealings ∨
      ∃ number type length loaded symbol route cache,
        after.Offers number type .alloc loaded symbol route cache ∧
        after.outside.dealings =
          before.outside.dealings ++ [.called loaded symbol (.alloc length 0)]) :
    Effect caches before after := by
  refine .idle ⟨touches.nextProvider, touches.source, touches.kept⟩ ?_
    (tally_congr touches.blocks) ?_ dealings
  · intro holding held
    unfold Holds at held ⊢
    rwa [touches.blocks] at held
  · intro other
    by_cases same : other = number
    · rw [same, stats]
    · exact touches.stats other same

/-- A change to one block that keeps what it holds and how it was settled is
idle. -/
theorem effect_modify {before after : World P} {number : Nat} {change : Block → Block}
    (blocks : after.blocks = before.blocks.modify number change)
    (there : number < before.blocks.length)
    (holding : ∀ block, (change block).holding = block.holding)
    (outcome : ∀ block, (change block).outcome = block.outcome)
    (providers : after.providers = before.providers)
    (nextProvider : after.nextProvider = before.nextProvider)
    (same : after.caches = before.caches) (outside : after.outside = before.outside) :
    Effect caches before after := by
  have weight (weigh : Holding → Option ReleaseOutcome → Nat) (block : Block) :
      (change block).weight weigh = block.weight weigh := by
    have lengths : (change block).length = block.length :=
      congrArg Holding.length (holding block)
    unfold Block.weight Block.isEmpty
    rw [lengths, holding, outcome]
  refine .idle ⟨nextProvider, ?_, ?_⟩ (fun _ => holds_modify blocks holding) ?_ ?_ (.inl ?_)
  · intro other
    rw [providers]
  · intro cache backend loaded held
    rwa [same]
  · intro weigh
    have changed := tally_modify blocks (List.getElem?_eq_getElem there) weigh
    rw [weight] at changed
    exact Nat.add_right_cancel changed
  · intro other
    rw [providers]
  · rw [outside]

/-- What every move does to the memory that blocks hold. -/
theorem Move.effect {before after : World P} (moved : before.Move caches after)
    (owned : before.Owned) : Effect caches before after := by
  cases moved with
  | drift state =>
      exact .idle ⟨rfl, fun _ => rfl, fun _ => .refl _⟩ (fun _ held => held)
        (fun _ => rfl) (fun _ => rfl) (.inl rfl)
  | provide source allowed => exact .provided source allowed
  | refuse known asked =>
      obtain ⟨touches, requested⟩ := requested_of asked
      cases requested with
      | refused stats dealings => exact touches.idle stats (.inl dealings)
      | barren offers stats dealings =>
          exact touches.idle stats (.inr ⟨_, _, _, _, _, _, _, offers, dealings⟩)
  | unprepared known asked =>
      obtain ⟨touches, stats, dealings⟩ := prepared_of asked
      exact touches.idle stats (.inl dealings)
  | share held =>
      exact effect_modify rfl (owned.present _ (mem_of_blockNumber? held)) (fun _ => rfl)
        (fun _ => rfl) rfl rfl rfl rfl
  | part held others =>
      exact effect_modify rfl (owned.present _ (mem_of_blockNumber? held)) (fun _ => rfl)
        (fun _ => rfl) rfl rfl rfl rfl
  | write there index value =>
      exact effect_modify rfl there (fun _ => rfl) (fun _ => rfl) rfl rfl rfl rfl
  | @grant middle number address type length known nonempty asked =>
      obtain ⟨touches, requested⟩ := requested_of asked
      have filled : Block.isEmpty { provider := number, type, address, length } = false :=
        decide_eq_false nonempty
      refine .granted middle.blocks.length ⟨number, type, address, length⟩
        ⟨touches.nextProvider, touches.source, touches.kept⟩ known requested rfl rfl touches.stats
        ?_ ?_ (Outside.dealings_enter ..)
      · rintro other ⟨block, member, filled, rfl⟩
        rcases List.mem_append.mp member with older | new
        · rw [touches.blocks] at older
          exact .inr ⟨block, older, filled, rfl⟩
        · rw [List.mem_singleton.mp new]
          exact .inl rfl
      · intro weigh
        refine (tally_concat middle _ rfl weigh).trans ?_
        rw [tally_congr touches.blocks]
        unfold Block.weight
        rw [filled]
        rfl
  | @prepared middle number type known asked =>
      obtain ⟨touches, stats, dealings⟩ := prepared_of asked
      refine .idle ⟨touches.nextProvider, touches.source, touches.kept⟩ ?_ ?_ ?_ (.inl dealings)
      · rintro other ⟨block, member, filled, rfl⟩
        rcases List.mem_append.mp member with older | new
        · rw [touches.blocks] at older
          exact ⟨block, older, filled, rfl⟩
        · rw [List.mem_singleton.mp new] at filled
          cases filled
      · intro weigh
        refine (tally_concat middle _ rfl weigh).trans ?_
        rw [tally_congr touches.blocks]
        rfl
      · intro other
        by_cases same : other = number
        · rw [same]
          exact stats
        · exact touches.stats other same
  | @retire buffer number block held present last =>
      have account := owned.account number block present
      have unsettled : block.outcome = none := by
        rw [account.unsettled, account.owners]
        exact List.countP_pos_iff.mpr ⟨_, mem_of_blockNumber? held, by simp⟩
      rcases (before.part buffer number).retire_cases number
        { block with owners := block.owners - 1 } with
        ⟨empty, touches, stats, dealings⟩ | ⟨nonempty, answer, touches, returned⟩
      · have blocks := touches.blocks.trans (List.modify_modify_eq ..)
        refine .idle ⟨touches.nextProvider, touches.source, touches.kept⟩
          (fun _ => holds_modify blocks fun _ => rfl) ?_ ?_ (.inl dealings)
        · intro weigh
          have changed := tally_modify blocks present weigh
          have weightless : block.weight weigh = 0 := if_pos empty
          rw [weightless] at changed
          exact changed.trans (congrArg (before.tally weigh + ·) (if_pos empty))
        · intro other
          by_cases same : other = block.provider
          · rw [same]
            exact stats
          · exact touches.stats other same
      · have blocks := touches.blocks.trans (List.modify_modify_eq ..)
        refine .returned number block.holding
          ⟨touches.nextProvider, touches.source, touches.kept⟩
          ⟨block, List.mem_of_getElem? present, nonempty, rfl⟩ returned rfl touches.stats
          (fun _ => holds_modify blocks fun _ => rfl) ?_ (Outside.dealings_enter ..)
        intro weigh
        have changed := tally_modify blocks present weigh
        have weight : block.weight weigh = weigh block.holding none := by
          unfold Block.weight
          rw [unsettled]
          exact if_neg (Bool.eq_false_iff.mp nonempty)
        rw [weight] at changed
        exact changed.trans
          (congrArg (before.tally weigh + ·) (if_neg (Bool.eq_false_iff.mp nonempty)))

/-- Providers keep their sources. -/
theorem Effect.source {before after : World P} (effect : Effect caches before after)
    {provider : Nat} (known : provider < before.nextProvider) :
    (after.providers provider).source = (before.providers provider).source := by
  cases effect with
  | provided source _ =>
      exact congrArg Provider.source (replace_other _ _ (Nat.ne_of_lt known))
  | idle steady | granted _ _ steady | returned _ _ steady => exact steady.source provider

/-- Every block that holds memory has a provider that was added. -/
def Provided (world : World P) : Prop :=
  ∀ holding, world.Holds holding → holding.provider < world.nextProvider

/-- Whatever is done, the providers of blocks that hold memory have been added. -/
theorem Effect.keepsProvided {before after : World P} (effect : Effect caches before after)
    (provided : before.Provided) : after.Provided := by
  intro holding held
  cases effect with
  | provided source _ => exact Nat.lt_succ_of_lt (provided holding held)
  | idle steady holds | returned _ _ steady _ _ _ _ holds =>
      rw [steady.nextProvider]
      exact provided holding (holds holding held)
  | granted _ _ steady known _ _ _ _ holds =>
      rw [steady.nextProvider]
      rcases holds holding held with rfl | older
      · exact known
      · exact provided holding older

/-- In every reachable world they have. -/
theorem Reachable.provided {world : World P} (reachable : world.Reachable caches) :
    world.Provided := by
  induction reachable with
  | fresh state => rintro _ ⟨_, ⟨⟩, _⟩
  | move earlier moved ih => exact (moved.effect earlier.owned).keepsProvided ih

end World

end TypedMemory
