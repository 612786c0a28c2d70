import Mathlib.Algebra.BigOperators.Group.Finset.Basic
import TypedMemory.Proofs.Conservation
import TypedMemory.Proofs.Topics

/-!
# Events agree with counters

What is reported and what is counted are kept in different places: the cache reports and
counts the libraries that it loads, a provider the memory that it grants and takes back, a
block that is retired reports how that went. Over a whole session both come to the same, up
to the size of a counter (`Session.run_reports`).
-/

namespace TypedMemory

variable {P : Platform}

/-- A sum grows by what one of its terms gains. -/
theorem sum_gain {numbers : Finset Nat} {before after : Nat → UInt64} {number : Nat}
    {gain : UInt64} (member : number ∈ numbers) (gained : after number = before number + gain)
    (others : ∀ other, other ≠ number → after other = before other) :
    ∑ other ∈ numbers, after other = ∑ other ∈ numbers, before other + gain := by
  have rest : ∑ other ∈ numbers.erase number, after other =
      ∑ other ∈ numbers.erase number, before other :=
    Finset.sum_congr rfl fun other kept => others other (Finset.ne_of_mem_erase kept)
  rw [← Finset.add_sum_erase _ _ member, ← Finset.add_sum_erase _ _ member, rest, gained,
    add_right_comm]

namespace World

/-- What all providers have counted, taken together. -/
def total (world : World P) (count : Provider → UInt64) : UInt64 :=
  ∑ number ∈ Finset.range world.nextProvider, count (world.providers number)

/-- How often the libraries of some caches were loaded. -/
def loadsOf (world : World P) (caches : Finset Nat) : UInt64 :=
  ∑ cache ∈ caches, (world.caches cache).loads

variable {before after : World P} {number : Nat} {told opened : List Topic} {caches : Finset Nat}

/-- What all providers counted grows by what the one that was dealt with reported. -/
theorem Tells.total (tells : before.Tells number told after) (known : number < before.nextProvider)
    (topic : Topic) :
    after.total topic.count = before.total topic.count + .ofNat (told.count topic) := by
  unfold World.total
  rw [tells.nextProvider]
  refine sum_gain (Finset.mem_range.mpr known) (tells.counted topic) ?_
  intro other different
  rw [tells.others other different]

/-- What all caches loaded grows by the loading that was reported. -/
theorem Loads.loadsOf {source : Source}
    (loads : Loads source before.caches after.caches opened)
    (within : source.Within fun cache => cache ∈ caches) :
    after.loadsOf caches = before.loadsOf caches + .ofNat (opened.count .loaded) := by
  unfold World.loadsOf
  cases loads with
  | none same =>
      rw [Finset.sum_congr rfl fun cache _ => same cache]
      exact (UInt64.add_zero _).symm
  | one library more others =>
      rw [library] at within
      exact sum_gain within.2 more others

/-- A dealing reports, besides the loading of a library, what it tells. -/
theorem Tells.count (tells : before.Tells number told after) {topic : Topic}
    (other : topic ≠ .loaded) :
    after.outside.topics.count topic = before.outside.topics.count topic + told.count topic := by
  obtain ⟨opened, loads, topics⟩ := tells.topics
  have unloaded : opened.count topic = 0 := by
    cases loads with
    | none => rfl
    | one => exact List.count_singleton.trans (if_neg (by simpa using other.symm))
  rw [topics, List.count_append, List.count_append, unloaded, Nat.add_zero]

/-- What providers and caches counted is what was reported. -/
structure Booked (caches : Finset Nat) (world : World P) : Prop where
  counted : ∀ topic : Topic, topic ≠ .loaded → topic ≠ .retired →
    .ofNat (world.outside.topics.count topic) = world.total topic.count
  loaded : .ofNat (world.outside.topics.count .loaded) = world.loadsOf caches

/-- A dealing reports as much as is counted. -/
theorem Tells.booked (tells : before.Tells number told after)
    (known : number < before.nextProvider)
    (within : (before.providers number).source.Within fun cache => cache ∈ caches)
    (unloaded : told.count .loaded = 0) (booked : before.Booked caches) :
    after.Booked caches where
  counted topic other running := by
    rw [tells.count other, UInt64.ofNat_add, booked.counted topic other running,
      tells.total known]
  loaded := by
    obtain ⟨opened, loads, topics⟩ := tells.topics
    rw [topics, List.count_append, List.count_append, unloaded, Nat.add_zero, UInt64.ofNat_add,
      booked.loaded, loads.loadsOf within]

/-- Blocks and what is reported of their retirement play no part. -/
theorem Booked.congr (booked : before.Booked caches)
    (providers : after.providers = before.providers)
    (nextProvider : after.nextProvider = before.nextProvider) (same : after.caches = before.caches)
    (topics : ∀ topic, topic ≠ .retired →
      after.outside.topics.count topic = before.outside.topics.count topic) :
    after.Booked caches where
  counted topic other running := by
    unfold World.total
    rw [topics topic running, providers, nextProvider]
    exact booked.counted topic other running
  loaded := by
    unfold World.loadsOf
    rw [topics .loaded nofun, same]
    exact booked.loaded

/-- A new provider has counted nothing. -/
theorem Booked.addProvider (booked : before.Booked caches) (source : Source) :
    (before.addProvider source).2.Booked caches where
  counted topic other running := by
    have fresh : topic.count { source } = 0 := by
      cases topic <;> first | rfl | exact ite_self _
    change _ = ∑ number ∈ Finset.range (before.nextProvider + 1),
      topic.count (replace before.providers before.nextProvider { source } number)
    rw [Finset.sum_range_succ, replace_same, fresh, add_zero]
    refine (booked.counted topic other running).trans (Finset.sum_congr rfl ?_)
    intro number known
    rw [replace_other _ _ (Nat.ne_of_lt (Finset.mem_range.mp known))]
  loaded := booked.loaded

/-- How many blocks have lost their last buffer. -/
def settled (world : World P) : Nat :=
  (world.blocks.map fun block => if block.outcome.isSome then 1 else 0).sum

/-- A new block is not settled. -/
theorem settled_concat {block : Block} (blocks : after.blocks = before.blocks ++ [block])
    (open' : block.outcome = none) : after.settled = before.settled := by
  unfold settled
  rw [blocks, List.map_append, List.sum_append, List.map_singleton, open']
  rfl

/-- A change that keeps how a block was settled keeps the number of settled blocks. -/
theorem settled_modify (world : World P) (number : Nat) {change : Block → Block}
    (same : ∀ block, (change block).outcome = block.outcome) :
    (world.modifyBlock number change).settled = world.settled := by
  unfold settled modifyBlock
  cases present : world.blocks[number]? with
  | none =>
      have beyond := List.getElem?_eq_none_iff.mp present
      rw [List.modify_eq_self beyond]
  | some block =>
      have changed := sum_map_modify world.blocks
        (fun block => if block.outcome.isSome then 1 else 0) number change present
      rw [same] at changed
      exact Nat.add_right_cancel changed

/-- Settling a block makes one more. -/
theorem settled_settle {world : World P} {block : Block}
    (present : world.blocks[number]? = some block) (open' : block.outcome = none)
    (outcome : ReleaseOutcome) : (world.settle number outcome).settled = world.settled + 1 := by
  have changed := sum_map_modify world.blocks
    (fun block => if block.outcome.isSome then 1 else 0) number
    (fun block => { block with outcome := some outcome }) present
  rw [open'] at changed
  exact changed

/-- Every block that lost its last buffer was reported as released or as leaked. -/
def Closed (world : World P) : Prop :=
  world.outside.topics.count .retired + world.outside.topics.count .leaked = world.settled

/-- Only settled blocks and reports matter. -/
theorem Closed.congr (closed : before.Closed) (settled : after.settled = before.settled)
    (topics : after.outside.topics = before.outside.topics) : after.Closed := by
  unfold Closed
  rw [topics, settled]
  exact closed

/-- A dealing that releases nothing settles nothing. -/
theorem Tells.closed (tells : before.Tells number told after) (unretired : told.count .retired = 0)
    (unleaked : told.count .leaked = 0) (closed : before.Closed) : after.Closed := by
  have settled : after.settled = before.settled := by
    unfold World.settled
    rw [tells.blocks]
  have retired : after.outside.topics.count .retired = _ := tells.count nofun
  have leaked : after.outside.topics.count .leaked = _ := tells.count nofun
  unfold Closed
  rw [retired, leaked, unretired, unleaked, settled]
  exact closed

/-- The release of a block without elements does nothing. -/
theorem release_empty {world : World P} {block : Block} (none : block.length = 0)
    (number : Nat) : world.release number block = (.empty, world) :=
  if_pos (decide_eq_true none)

/-- The report that a block was released. -/
theorem count_released (outside : Outside P) (fields : List (String × FieldValue))
    (topic : Topic) :
    (outside.report .trace "buffer released" fields).topics.count topic =
      outside.topics.count topic + if .retired = topic then 1 else 0 := by
  have told : Topic.of? .trace "buffer released" = some .retired :=
    Topic.of?_eq_some_iff.mpr ⟨rfl, rfl⟩
  unfold Outside.report
  rw [Outside.topics_enter _ _ rfl, List.count_append]
  simp only [Entry.topic?, told, Option.toList_some, List.count_singleton, beq_iff_eq]

/-- Retiring a block reports as much as is counted, whatever the outcome. -/
theorem Booked.retire {world : World P} (booked : world.Booked caches) {block : Block}
    (within : (world.providers block.provider).source.Within fun cache => cache ∈ caches)
    (served : block.length ≠ 0 → world.Served block)
    (known : block.length ≠ 0 → block.provider < world.nextProvider) (number : Nat) :
    (world.retire number block).Booked caches := by
  have released : (world.release number block).2.Booked caches := by
    by_cases none : block.length = 0
    · rw [release_empty none]
      exact booked
    · refine (release_tells within served number).booked (known none) within ?_ booked
      cases (world.release number block).1 <;> rfl
  unfold World.retire
  rcases asked : world.release number block with ⟨outcome, after⟩
  rw [asked] at released
  dsimp only
  split
  · exact released.congr rfl rfl rfl fun _ _ => rfl
  · refine released.congr rfl rfl rfl fun topic running => ?_
    refine (count_released ..).trans ?_
    rw [if_neg running.symm]
    rfl

/-- Retiring a block settles it, and reports that it was released or that it leaked. -/
theorem Closed.retire {world : World P} (closed : world.Closed) {block old : Block}
    (within : (world.providers block.provider).source.Within fun cache => cache ∈ caches)
    (served : block.length ≠ 0 → world.Served block)
    (present : world.blocks[number]? = some old) (unsettled : old.outcome = none) :
    (world.retire number block).Closed := by
  have tells := release_tells within served number
  unfold World.retire
  rcases asked : world.release number block with ⟨outcome, after⟩
  rw [asked] at tells
  have settled : (after.settle number outcome).settled = world.settled + 1 := by
    rw [settled_settle (tells.blocks ▸ present) unsettled]
    unfold World.settled
    rw [tells.blocks]
  have retired : after.outside.topics.count .retired = _ := tells.count nofun
  have leaked : after.outside.topics.count .leaked = _ := tells.count nofun
  unfold Closed at closed
  cases outcome with
  | failed =>
      change after.outside.topics.count .retired + after.outside.topics.count .leaked =
        (after.settle number .failed).settled
      rw [settled, retired, leaked, ← closed]
      rfl
  | freed | empty =>
      change (after.outside.report .trace "buffer released" _).topics.count .retired +
        (after.outside.report .trace "buffer released" _).topics.count .leaked =
          (after.settle number _).settled
      rw [settled, count_released, count_released, retired, leaked, ← closed, if_pos rfl,
        if_neg nofun]
      exact Nat.add_right_comm _ 1 _

/-- The last buffer of a block is dropped. -/
theorem Reachable.part_served {world : World P} {allowed : Nat → Prop}
    (reachable : world.Reachable allowed) {buffer : Nat} {block : Block}
    (present : world.blocks[number]? = some block) (owners : Nat)
    (nonempty : block.length ≠ 0) :
    (world.part buffer number).Served { block with owners } := by
  obtain ⟨stocked, sized⟩ := reachable.served present nonempty
  exact ⟨stocked, sized⟩

/-- A grant is on no topic. -/
theorem topics_granted (outside : Outside P) (block provider : Nat) (type : ElementType)
    (address : Nat) (length : UInt64) :
    (outside.enter (.granted block provider type address length)).topics = outside.topics :=
  (Outside.topics_enter _ _ rfl).trans (List.append_nil _)

/-- Every move reports as much as is counted. -/
theorem Move.booked (moved : before.Move (· ∈ caches) after)
    (reachable : before.Reachable (· ∈ caches)) (booked : before.Booked caches) :
    after.Booked caches := by
  have within := reachable.resolved.within
  cases moved with
  | drift | share | part | write => exact booked.congr rfl rfl rfl fun _ _ => rfl
  | provide source _ => exact booked.addProvider source
  | @refuse _ number _ _ _ known asked =>
      exact (request_tells (within number) asked nofun).booked known (within number) rfl booked
  | @grant middle number _ _ _ known nonempty asked =>
      have tells := request_tells (within number) asked fun _ _ => nonempty
      refine (tells.booked known (within number) rfl booked).congr rfl rfl rfl fun topic _ => ?_
      exact congrArg (List.count topic) (topics_granted ..)
  | @unprepared _ number type _ known asked =>
      have tells := before.prepare_tells number type
      rw [asked] at tells
      exact tells.booked known (within number) rfl booked
  | @prepared middle number type known asked =>
      have tells := before.prepare_tells number type
      rw [asked] at tells
      exact (tells.booked known (within number) rfl booked).congr rfl rfl rfl fun _ _ => rfl
  | @retire buffer number block owned present last =>
      have parted : (before.part buffer number).Booked caches :=
        booked.congr rfl rfl rfl fun _ _ => rfl
      refine parted.retire (within _) (reachable.part_served present _) (fun nonempty => ?_) number
      exact reachable.provided _
        ⟨block, List.mem_of_getElem? present, decide_eq_false nonempty, rfl⟩

/-- Every move settles a block exactly if it reports one as released or leaked. -/
theorem Move.closed (moved : before.Move (· ∈ caches) after)
    (reachable : before.Reachable (· ∈ caches)) (closed : before.Closed) : after.Closed := by
  have within := reachable.resolved.within
  cases moved with
  | drift | provide => exact closed
  | @refuse _ number _ _ _ _ asked =>
      exact (request_tells (within number) asked nofun).closed rfl rfl closed
  | @grant _ number _ _ _ _ nonempty asked =>
      have tells := request_tells (within number) asked fun _ _ => nonempty
      exact (tells.closed rfl rfl closed).congr (settled_concat rfl rfl) (topics_granted ..)
  | @unprepared _ number type _ _ asked =>
      have tells := before.prepare_tells number type
      rw [asked] at tells
      exact tells.closed rfl rfl closed
  | @prepared _ number type _ asked =>
      have tells := before.prepare_tells number type
      rw [asked] at tells
      exact (tells.closed rfl rfl closed).congr (settled_concat rfl rfl) rfl
  | @share _ number _ =>
      exact closed.congr (before.settled_modify number fun _ => rfl) rfl
  | @part _ number _ _ => exact closed.congr (before.settled_modify number fun _ => rfl) rfl
  | @write number _ _ _ => exact closed.congr (before.settled_modify number fun _ => rfl) rfl
  | @retire buffer number block owned present last =>
      have parted : (before.part buffer number).Closed :=
        closed.congr (before.settled_modify number fun _ => rfl) rfl
      obtain ⟨_, same, _, unsettled⟩ := reachable.owned.alive owned
      cases same.symm.trans present
      have still : (before.part buffer number).blocks[number]? =
          some { block with owners := block.owners - 1 } := by
        simp only [World.part, modifyBlock, List.getElem?_modify_eq, present]
        rfl
      exact parted.retire (within _) (reachable.part_served present _) still unsettled

/-- In every reachable world the reports agree with the counters. -/
theorem Reachable.booked {world : World P} (reachable : world.Reachable (· ∈ caches)) :
    world.Booked caches := by
  induction reachable with
  | fresh state =>
      refine ⟨fun topic _ _ => rfl, ?_⟩
      exact (Finset.sum_eq_zero fun _ _ => rfl).symm
  | move earlier moved ih => exact moved.booked earlier ih

/-- In every reachable world as many blocks are settled as are reported released or leaked. -/
theorem Reachable.closed {world : World P} (reachable : world.Reachable (· ∈ caches)) :
    world.Closed := by
  induction reachable with
  | fresh state => rfl
  | move earlier moved ih => exact moved.closed earlier ih

/-- The blocks that were settled are those without a live buffer. -/
theorem Owned.settled_eq {world : World P} (owned : world.Owned) :
    world.settled = (world.pick fun number _ => world.handles number = 0).length := by
  have settled : (world.pick fun number _ => world.handles number = 0) =
      world.blocks.filter fun block => block.outcome.isSome := by
    apply world.pick_eq_filter
    intro number block present
    have live := owned.live_iff present
    rw [Bool.eq_iff_iff, decide_eq_true_eq, Option.isSome_iff_ne_none, ne_eq, ← live,
      Nat.not_lt, Nat.le_zero]
  rw [settled]
  unfold World.settled
  induction world.blocks with
  | nil => rfl
  | cons block blocks ih =>
      rw [List.map_cons, List.sum_cons, ih, List.filter_cons]
      split
      · rw [List.length_cons, Nat.add_comm]
      · rw [Nat.zero_add]

end World

/-- **Events agree with counters.** After any session whose allocators take their libraries
from some caches, and so at every point of it, the reports of allocations and releases in
each memory, of leaks and of loaded libraries are as many as the counters say, up to the
size of a counter. Every block without a live buffer was reported as released, unless it
was leaked. -/
theorem Session.run_reports (state : P.State) (steps : List (Step P)) (caches : Finset Nat)
    (allowed : ∀ step ∈ steps, step.Within (· ∈ caches)) :
    let world := ((start state).run steps).world
    let reported (level : Level) (message : String) : UInt64 :=
      .ofNat (world.outside.events.countP fun event =>
        event.level = level ∧ event.message = message)
    let counted (backend : Backend) (count : Stats → UInt64) : UInt64 :=
      ∑ number ∈ Finset.range world.nextProvider with (world.providers number).backend = backend,
        count (world.providers number).stats
    let leaks : UInt64 := ∑ number ∈ Finset.range world.nextProvider,
      (world.providers number).stats.failedReleases
    reported .debug "host allocation" = counted .host Stats.allocations ∧
    reported .debug "accelerator allocation" = counted .accelerator Stats.allocations ∧
    reported .debug "host release" = counted .host Stats.releases ∧
    reported .debug "accelerator release" = counted .accelerator Stats.releases ∧
    reported .error "failed to release buffer; backend memory is leaked" = leaks ∧
    reported .info "loaded kernels library" = ∑ cache ∈ caches, (world.caches cache).loads ∧
    reported .trace "buffer released" =
      .ofNat (world.pick fun number _ => world.handles number = 0).length - leaks := by
  intro world reported counted leaks
  have reachable := run_reachable state steps allowed
  have booked := reachable.booked
  have told (topic : Topic) : reported topic.level topic.message =
      .ofNat (world.outside.topics.count topic) :=
    congrArg UInt64.ofNat (world.outside.count_topics topic).symm
  have obtained (backend : Backend) :
      .ofNat (world.outside.topics.count (.obtained backend)) = counted backend Stats.allocations :=
    (booked.counted (.obtained backend) nofun nofun).trans (Finset.sum_filter ..).symm
  have released (backend : Backend) :
      .ofNat (world.outside.topics.count (.released backend)) = counted backend Stats.releases :=
    (booked.counted (.released backend) nofun nofun).trans (Finset.sum_filter ..).symm
  have leaked : .ofNat (world.outside.topics.count .leaked) = leaks :=
    booked.counted .leaked nofun nofun
  refine ⟨(told (.obtained .host)).trans (obtained _),
    (told (.obtained .accelerator)).trans (obtained _),
    (told (.released .host)).trans (released _),
    (told (.released .accelerator)).trans (released _), (told .leaked).trans leaked,
    (told .loaded).trans booked.loaded, (told .retired).trans ?_⟩
  rw [← reachable.owned.settled_eq, ← reachable.closed, UInt64.ofNat_add, leaked]
  exact (add_sub_cancel_right _ _).symm

namespace Session

open Simulation

/-- A block of host memory, an empty one, and two blocks from a library that can take only
one of them back. -/
def mixedSteps : List (Step Machine.platform) :=
  [.make ⟨some Linker.library, "", "partial_"⟩ 0, .allocate 0 3 .float64 .host,
    .allocate 0 7 .float32 .accelerator, .allocate 0 2 .int8 .accelerator,
    .allocate 0 0 .int8 .host, .drop 0, .drop 1, .drop 2, .drop 3]

/-- Four blocks have lost their buffers and one of them leaked, so the others are reported as
released. -/
theorem mixed_reports :
    let world := ((start (P := Machine.platform) {}).run mixedSteps).world
    (∀ step ∈ mixedSteps, step.Within (· ∈ ({0} : Finset Nat))) ∧
    .ofNat (world.outside.events.countP fun event =>
        event.level = .trace ∧ event.message = "buffer released") =
      .ofNat (world.pick fun number _ => world.handles number = 0).length -
        ∑ number ∈ Finset.range world.nextProvider,
          (world.providers number).stats.failedReleases ∧
    (world.pick fun number _ => world.handles number = 0).length = 4 ∧
    (world.providers 1).stats.failedReleases = 1 := by
  intro world
  have allowed : ∀ step ∈ mixedSteps, step.Within (· ∈ ({0} : Finset Nat)) := by
    intro step member
    simp only [mixedSteps, List.mem_cons, List.not_mem_nil, or_false] at member
    rcases member with rfl | rfl | rfl | rfl | rfl | rfl | rfl | rfl | rfl
    · exact Finset.mem_singleton_self 0
    all_goals trivial
  obtain ⟨_, _, _, _, _, _, released⟩ := run_reports _ mixedSteps {0} allowed
  exact ⟨allowed, released, by decide +kernel, by decide +kernel⟩

end Session

end TypedMemory
