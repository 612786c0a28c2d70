import TypedMemory.Proofs.Reachable

/-!
# Lengths of requests

An entry point that obtains memory is called only in answer to a request, and it
gets the length that was requested: as a signed word, and always positive. On its
way the length passes through an unsigned word, from which it comes back unchanged.
-/

namespace TypedMemory

variable {P : Platform}

/-- A length that is not negative is the same number as a word. -/
theorem toNat_word (length : Int64) :
    (UInt64.ofNat length.toInt.toNat).toNat = length.toInt.toNat := by
  have bounded := Int64.toInt_lt length
  rw [UInt64.toNat_ofNat']
  exact Nat.mod_eq_of_lt (by omega)

/-- A length that is not negative and not zero is positive, and survives being an
unsigned word. -/
theorem signed_of_word {length : Int64} (signed : ¬ length < 0)
    (nonempty : UInt64.ofNat length.toInt.toNat ≠ 0) :
    Int64.ofNat (UInt64.ofNat length.toInt.toNat).toNat = length ∧ 0 < length := by
  have positive : 0 ≤ length.toInt := by
    rw [Int64.lt_iff_toInt_lt] at signed
    simpa using signed
  constructor
  · rw [toNat_word, ← Int64.ofInt_eq_ofNat, Int.toNat_of_nonneg positive, Int64.ofInt_toInt]
  · have nonzero : length.toInt ≠ 0 := by
      intro zero
      rw [zero] at nonempty
      exact nonempty rfl
    rw [Int64.lt_iff_toInt_lt, Int64.toInt_zero]
    omega

namespace World

/-- Only dealings were added, and whenever memory was asked for, it was by a length
that passes a test. -/
def Asks (lengths : Int64 → Prop) (before after : World P) : Prop :=
  ∃ made, after.outside.dealings = before.outside.dealings ++ made ∧
    ∀ loaded symbol length address,
      Entry.called loaded symbol (.alloc length address) ∈ made → lengths length

variable {lengths : Int64 → Prop}

/-- If no dealing was added, nothing was asked for. -/
theorem asks_of_same {before after : World P}
    (same : after.outside.dealings = before.outside.dealings) : Asks lengths before after :=
  ⟨[], by rw [same, List.append_nil], nofun⟩

/-- A request asks by its own length. -/
theorem Requested.asks {world after : World P} {number : Nat} {type : ElementType}
    {length : UInt64} {answer : Except Error Nat}
    (requested : world.Requested number type length answer after)
    (passes : lengths (Int64.ofNat length.toNat)) : Asks lengths world after := by
  cases requested with
  | refused _ dealings | hosted _ _ _ dealings => exact asks_of_same dealings
  | barren _ _ dealings | fetched _ _ _ dealings =>
      refine ⟨_, dealings, ?_⟩
      intro loaded symbol length address member
      cases List.mem_singleton.mp member
      exact passes

/-- A buffer is asked for by its own length, and only if it has elements. -/
theorem obtainBuffer_asks (world : World P) (number : Nat) (type : ElementType) (length : UInt64)
    (passes : length ≠ 0 → lengths (Int64.ofNat length.toNat)) :
    Asks lengths world (world.obtainBuffer number type length).2 := by
  unfold obtainBuffer
  by_cases empty : length = 0
  · simp only [empty, ↓reduceIte]
    rcases asked : world.prepare number type with ⟨error | _, after⟩ <;>
      exact asks_of_same (prepared_of asked).2.2
  · simp only [empty, ↓reduceIte]
    rcases asked : world.request number type length with ⟨error | address, after⟩
    · exact (requested_of asked).2.asks (passes empty)
    · obtain ⟨made, dealings, asks⟩ := (requested_of asked).2.asks (passes empty)
      refine ⟨made ++ [.granted after.blocks.length number type address length], ?_, ?_⟩
      · rw [← List.append_assoc, ← dealings]
        exact Outside.dealings_enter ..
      · intro loaded symbol length address member
        rcases List.mem_append.mp member with call | grant
        · exact asks loaded symbol length address call
        · cases List.mem_singleton.mp grant

/-- An allocator asks by the length that is requested of it, which is then positive. -/
theorem allocate_asks (world : World P) (allocator : Allocator) (length : Int64)
    (type : ElementType) (backend : Backend) :
    Asks (fun asked => length = asked ∧ 0 < asked) world
      (world.allocate allocator length type backend).2 := by
  unfold allocate
  split
  · exact asks_of_same rfl
  · next signed =>
      split
      · exact asks_of_same rfl
      · apply obtainBuffer_asks
        intro nonempty
        obtain ⟨word, positive⟩ := signed_of_word signed nonempty
        rw [word]
        exact ⟨rfl, positive⟩

/-- So it does if type and backend are named by text. -/
theorem allocateNamed_asks (world : World P) (allocator : Allocator) (length : Int64)
    (type backend : String) :
    Asks (fun asked => length = asked ∧ 0 < asked) world
      (world.allocateNamed allocator length type backend).2 := by
  unfold allocateNamed
  split
  · exact asks_of_same rfl
  · split
    · exact asks_of_same rfl
    · exact world.allocate_asks allocator length _ _

/-- A drop asks for nothing. -/
theorem drop_asks (world : World P) (buffer : Nat) : Asks lengths world (world.drop buffer) := by
  rcases world.drop_cases buffer with
    ⟨_, same⟩ | ⟨number, _, _, equation⟩ | ⟨number, block, _, _, _, equation⟩
  · rw [same]
    exact asks_of_same rfl
  · rw [equation]
    exact asks_of_same rfl
  · rw [equation]
    rcases (world.part buffer number).retire_cases number
      { block with owners := block.owners - 1 } with
      ⟨_, _, _, dealings⟩ | ⟨_, answer, _, returned⟩
    · exact asks_of_same dealings
    · -- Taking a block back is put on record, and may call an entry point that releases.
      have entered : ((world.part buffer number).enter (.returned number block.provider block.type
          block.address block.length)).outside.dealings = world.outside.dealings ++ _ :=
        Outside.dealings_enter ..
      cases returned with
      | unsized _ _ dealings | unreached _ _ dealings | hosted _ _ dealings =>
          refine ⟨_, dealings.trans entered, ?_⟩
          intro loaded symbol length address member
          cases List.mem_singleton.mp member
      | fetched _ _ dealings =>
          refine ⟨_, dealings.trans (by rw [entered, List.append_assoc]), ?_⟩
          intro loaded symbol length address member
          rcases List.mem_append.mp member with entry | call
          · cases List.mem_singleton.mp entry
          · cases List.mem_singleton.mp call

/-- Making an allocator touches nothing outside. -/
theorem addAllocator_outside (world : World P) (registry : Registry) (cache : Nat) :
    (world.addAllocator registry cache).2.outside = world.outside := by
  rcases Session.addAllocator_cases world registry cache with
    ⟨_, _, equation⟩ | ⟨_, _, equation⟩ <;>
    rw [equation] <;>
    rfl

end World

/-- A step asks for memory only if it is a request, and then by the length that is
requested, which is positive. -/
theorem Session.step_asks (session : Session P) (taken : Step P) :
    World.Asks (fun length => taken.requested? = some length ∧ 0 < length) session.world
      (session.step taken).world := by
  cases taken with
  | drift state => exact World.asks_of_same rfl
  | discard number => exact World.asks_of_same rfl
  | make registry cache =>
      exact World.asks_of_same
        (congrArg Outside.dealings (session.world.addAllocator_outside registry cache))
  | allocate number length type backend =>
      dsimp only [step, Step.requested?]
      split
      · exact World.asks_of_same rfl
      · next allocator _ =>
          simp only [inWorld_world, Option.some.injEq]
          exact session.world.allocate_asks allocator length type backend
  | allocateNamed number length type backend =>
      dsimp only [step, Step.requested?]
      split
      · exact World.asks_of_same rfl
      · next allocator _ =>
          simp only [inWorld_world, Option.some.injEq]
          exact session.world.allocateNamed_asks allocator length type backend
  | clone buffer =>
      dsimp only [step]
      rw [World.clone?_eq]
      cases session.world.blockNumber? buffer <;> exact World.asks_of_same rfl
  | drop buffer => exact session.world.drop_asks buffer
  | write buffer index value =>
      dsimp only [step]
      split
      · exact World.asks_of_same rfl
      · next world written =>
          obtain ⟨number, _, rfl⟩ := World.write?_eq written
          exact World.asks_of_same rfl

end TypedMemory
