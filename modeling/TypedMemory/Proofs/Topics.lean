import Mathlib.Data.UInt
import TypedMemory.Proofs.Record

/-!
# What is reported

Some events tell of what counters count: memory that was obtained, released or leaked, a
library that was loaded, a block that was retired. These are topics, each with a level and
a message of its own (`Outside.count_topics`). Whenever a provider is dealt with, what is
reported and what is counted agree (`World.Tells`).
-/

namespace TypedMemory

variable {P : Platform}

/-- What an event can be about. -/
inductive Topic where
  | obtained (backend : Backend)
  | released (backend : Backend)
  /-- Memory was not taken back. -/
  | leaked
  | loaded
  | retired
deriving DecidableEq

namespace Provider

@[simp] theorem backend_stats (provider : Provider) (stats : Stats) :
    Provider.backend { provider with stats } = provider.backend := rfl

/-- A provider without a library is one of host memory. -/
theorem backend_of_host {provider : Provider} (source : provider.source = .host) :
    provider.backend = .host := by
  unfold backend
  rw [source]

/-- A provider with a library is one of the accelerator. -/
theorem backend_of_library {provider : Provider} {caches : Nat → Prop} {route : Route}
    {cache : Nat} (within : provider.source.Within caches)
    (source : provider.source = .library route cache) : provider.backend = .accelerator := by
  rw [source] at within
  unfold backend
  rw [source]
  exact within.1

end Provider

namespace Topic

/-- The level at which a topic is reported. -/
def level : Topic → Level
  | .obtained _ | .released _ => .debug
  | .leaked => .error
  | .loaded => .info
  | .retired => .trace

/-- The message by which a topic is known. -/
def message : Topic → String
  | .obtained .host => "host allocation"
  | .obtained .accelerator => "accelerator allocation"
  | .released .host => "host release"
  | .released .accelerator => "accelerator release"
  | .leaked => "failed to release buffer; backend memory is leaked"
  | .loaded => "loaded kernels library"
  | .retired => "buffer released"

/-- All topics. -/
def all : List Topic :=
  [.obtained .host, .obtained .accelerator, .released .host, .released .accelerator, .leaked,
    .loaded, .retired]

/-- The topic that is reported at a level with a message, if there is one. -/
def of? (level : Level) (message : String) : Option Topic :=
  all.find? fun topic => topic.level = level ∧ topic.message = message

/-- A level and a message have a topic exactly if they are the topic's own. No two topics share
both. -/
theorem of?_eq_some_iff {level : Level} {message : String} {topic : Topic} :
    of? level message = some topic ↔ level = topic.level ∧ message = topic.message := by
  constructor
  · intro found
    have same := List.find?_some found
    rw [decide_eq_true_eq] at same
    exact ⟨same.1.symm, same.2.symm⟩
  · rintro ⟨rfl, rfl⟩
    rcases topic with (_ | _) | (_ | _) | _ | _ | _ <;> decide +kernel

/-- What a provider has counted of a topic. -/
def count : Topic → Provider → UInt64
  | .obtained backend, provider =>
      if provider.backend = backend then provider.stats.allocations else 0
  | .released backend, provider =>
      if provider.backend = backend then provider.stats.releases else 0
  | .leaked, provider => provider.stats.failedReleases
  | .loaded, _ | .retired, _ => 0

/-- What is reported of a request: that memory was obtained, if it was. -/
def ofAnswer (backend : Backend) : Except Error Nat → List Topic
  | .ok _ => [.obtained backend]
  | .error _ => []

/-- What is reported of a release: that memory was taken back or not, if there was any. -/
def ofOutcome (backend : Backend) : ReleaseOutcome → List Topic
  | .freed => [.released backend]
  | .empty => []
  | .failed => [.leaked]

variable (topic : Topic) (provider : Provider) (bytes : Nat)

theorem count_unchanged :
    topic.count provider = topic.count provider + .ofNat (([] : List Topic).count topic) :=
  (UInt64.add_zero _).symm

/-- An allocation is counted under the topic that reports it, and under no other. -/
theorem count_recordAllocation :
    topic.count { provider with stats := provider.stats.recordAllocation bytes } =
      topic.count provider + .ofNat ([obtained provider.backend].count topic) := by
  cases topic with
  | obtained backend =>
      by_cases same : provider.backend = backend <;> simp [count, Stats.recordAllocation, same]
  | released | leaked | loaded | retired => exact (UInt64.add_zero _).symm

/-- So is a release. -/
theorem count_recordRelease :
    topic.count { provider with stats := provider.stats.recordRelease bytes } =
      topic.count provider + .ofNat ([released provider.backend].count topic) := by
  cases topic with
  | released backend =>
      by_cases same : provider.backend = backend <;> simp [count, Stats.recordRelease, same]
  | obtained | leaked | loaded | retired => exact (UInt64.add_zero _).symm

/-- So is a failed release. -/
theorem count_recordFailedRelease :
    topic.count { provider with stats := provider.stats.recordFailedRelease } =
      topic.count provider + .ofNat ([leaked].count topic) := by
  cases topic with
  | leaked => rfl
  | obtained | released | loaded | retired => exact (UInt64.add_zero _).symm

end Topic

/-- The topic of an entry, if it has one. -/
def Entry.topic? : Entry P → Option Topic
  | .reported event => Topic.of? event.level event.message
  | _ => none

namespace Outside

/-- All that was reported on a topic, in order. -/
def topics (outside : Outside P) : List Topic := outside.record.filterMap Entry.topic?

/-- The topics of what is put on record are added, and remarks have none. -/
theorem topics_of_record {before after : Outside P} {made : List (Entry P)}
    (recorded : after.record = before.record ++ made) :
    after.topics = before.topics ++ made.filterMap Entry.topic? := by
  unfold topics
  rw [recorded, List.filterMap_append]

/-- So they are if an opening is put on record first. -/
theorem topics_of_record_append {before after : Outside P} {opened made : List (Entry P)}
    (recorded : after.record = before.record ++ opened ++ made) :
    after.topics = before.topics ++ opened.filterMap Entry.topic? ++
      made.filterMap Entry.topic? := by
  unfold topics
  rw [recorded, List.filterMap_append, List.filterMap_append]

/-- An entry that is put on record adds its topic, if it has one. -/
theorem topics_enter (outside : Outside P) (entry : Entry P) (told : entry.isRemark = false) :
    (outside.enter entry).topics = outside.topics ++ entry.topic?.toList := by
  rw [topics_of_record (outside.record_enter told)]
  cases topic : entry.topic? <;> simp [topic]

/-- Remarks are on no topic. -/
theorem topic?_of_isRemark {entry : Entry P} (remark : entry.isRemark = true) :
    entry.topic? = none := by
  cases entry with
  | reported event =>
      rw [Option.eq_none_iff_forall_ne_some]
      intro topic found
      obtain ⟨level, message⟩ := Topic.of?_eq_some_iff.mp found
      have remarked : event.level = .warn ∨ event.message = "resolved entry point" :=
        of_decide_eq_true remark
      rw [level, message] at remarked
      revert remarked
      rcases topic with (_ | _) | (_ | _) | _ | _ | _ <;> decide +kernel
  | _ => rfl

/-- The topics are those of the events. -/
theorem topics_eq (outside : Outside P) :
    outside.topics = outside.events.filterMap fun event => Topic.of? event.level event.message := by
  unfold topics record events
  rw [List.filterMap_filter, List.filterMap_filterMap]
  congr 1
  funext entry
  cases remark : entry.isRemark with
  | true =>
      cases entry with
      | reported event => exact (topic?_of_isRemark remark).symm
      | _ => cases remark
  | false => cases entry <;> rfl

/-- The events on a topic are those with its level and its message. -/
theorem count_topics (outside : Outside P) (topic : Topic) :
    outside.topics.count topic = outside.events.countP fun event =>
      event.level = topic.level ∧ event.message = topic.message := by
  rw [topics_eq, List.count, List.countP_filterMap]
  congr 1
  funext event
  rw [Bool.eq_iff_iff, decide_eq_true_eq, ← Topic.of?_eq_some_iff]
  cases Topic.of? event.level event.message <;> simp

end Outside

namespace World

/-- What asking the source of a provider for its library does to the number of loads of
each cache, and what it reports. -/
inductive Loads (source : Source) (before after : Nat → Cache P) : List Topic → Prop
  | none (same : ∀ cache, (after cache).loads = (before cache).loads) :
      Loads source before after []
  | one {route : Route} {cache : Nat} (library : source = .library route cache)
      (more : (after cache).loads = (before cache).loads + 1)
      (others : ∀ other, other ≠ cache → (after other).loads = (before other).loads) :
      Loads source before after [.loaded]

/-- A library that is opened is counted by its cache and reported; an attempt that fails is
reported on no topic, and not counted. -/
theorem loads_of_gains {caches : Nat → Cache P} {route : Route} {cache : Nat} {state : P.State}
    {later : Cache P} {opened : List (Entry P)}
    (gains : (caches cache).Gains cache route.backend route.path state later opened) :
    Loads (.library route cache) caches (replace caches cache later)
      (opened.filterMap Entry.topic?) := by
  cases gains with
  | none => exact .none fun _ => by rw [replace_self]
  | failure =>
      have silent : Topic.of? .error "failed to load kernels library" = none := by decide +kernel
      simp only [List.filterMap_cons, List.filterMap_nil, Entry.topic?, silent]
      exact .none fun _ => by rw [replace_self]
  | library =>
      have told : Topic.of? .info "loaded kernels library" = some .loaded :=
        Topic.of?_eq_some_iff.mpr ⟨rfl, rfl⟩
      simp only [List.filterMap_cons, List.filterMap_nil, Entry.topic?, told]
      refine .one rfl (by rw [replace_same]) ?_
      intro other different
      rw [replace_other _ _ different]

/-- What a dealing with the provider of a number reports, besides the loading of a library:
as much as the provider counts. -/
structure Tells (number : Nat) (told : List Topic) (before after : World P) : Prop where
  blocks : after.blocks = before.blocks
  nextProvider : after.nextProvider = before.nextProvider
  others : ∀ other, other ≠ number → after.providers other = before.providers other
  counted : ∀ topic : Topic, topic.count (after.providers number) =
    topic.count (before.providers number) + .ofNat (told.count topic)
  topics : ∃ opened, Loads (before.providers number).source before.caches after.caches opened ∧
    after.outside.topics = before.outside.topics ++ opened ++ told

variable {world : World P} {number : Nat} {type : ElementType} {length : UInt64}
  {caches : Nat → Prop}

/-- A provider that counts what is reported tells the truth. -/
theorem tells_charged {stats : Stats} {later : Nat → Cache P} {outside : Outside P}
    {told opened : List Topic}
    (counted : ∀ topic : Topic, topic.count { world.providers number with stats } =
      topic.count (world.providers number) + .ofNat (told.count topic))
    (loads : Loads (world.providers number).source world.caches later opened)
    (topics : outside.topics = world.outside.topics ++ opened ++ told) :
    world.Tells number told (world.charged number stats later outside) where
  blocks := rfl
  nextProvider := rfl
  others _ different := replace_other _ _ different
  counted topic := by
    change topic.count (replace world.providers number _ number) = _
    rw [replace_same]
    exact counted topic
  topics := ⟨opened, loads, topics⟩

/-- Making sure that blocks could be had reports at most the loading of the library. -/
theorem prepare_tells (world : World P) (number : Nat) (type : ElementType) :
    world.Tells number [] (world.prepare number type).2 := by
  cases source : (world.providers number).source with
  | host =>
      rw [prepare_of_host source]
      refine tells_charged (Topic.count_unchanged · _) (.none fun _ => rfl) ?_
      rw [List.append_nil, List.append_nil]
  | library route cache =>
      obtain ⟨opened, gains, recorded⟩ :=
        route.prepare_gains type cache (world.caches cache) world.outside
      rcases asked : route.prepare type cache (world.caches cache) world.outside with
        ⟨answer, later, outside⟩
      rw [asked] at gains recorded
      rw [prepare_of_library source asked]
      refine tells_charged (Topic.count_unchanged · _)
        (source ▸ loads_of_gains gains) ?_
      rw [List.append_nil]
      exact Outside.topics_of_record recorded

/-- A request reports that memory was obtained, and counts it, exactly if it is granted. -/
theorem request_tells {answer : Except Error Nat} {after : World P}
    (within : (world.providers number).source.Within caches)
    (asked : world.request number type length = (answer, after))
    (nonempty : ∀ address, answer = .ok address → length ≠ 0) :
    world.Tells number (Topic.ofAnswer (world.providers number).backend answer) after := by
  cases source : (world.providers number).source with
  | host =>
      have backend := Provider.backend_of_host source
      obtain ⟨answer', stats, outside, asked', granting⟩ :=
        HostMemory.allocate_granting type length (world.providers number).stats world.outside
      cases (request_of_host source asked').symm.trans asked
      cases granting with
      | refused | spent _ =>
          refine tells_charged (Topic.count_unchanged · _) (.none fun _ => rfl) ?_
          exact ((List.append_nil _).trans (List.append_nil _)).symm
      | vacant empty => exact (nonempty _ rfl empty).elim
      | granted recorded =>
          have told : Topic.of? .debug "host allocation" = some (.obtained .host) :=
            Topic.of?_eq_some_iff.mpr ⟨rfl, rfl⟩
          refine tells_charged (Topic.count_recordAllocation · _ _) (.none fun _ => rfl) ?_
          rw [Outside.topics_of_record recorded, backend, List.append_nil]
          simp only [List.filterMap_cons, List.filterMap_nil, Entry.topic?, told]
          rfl
  | library route cache =>
      have backend := Provider.backend_of_library within source
      obtain ⟨answer', stats, later, outside, opened, made, asked', gains, granting, recorded⟩ :=
        route.allocate_granting type length cache (world.providers number).stats
          (world.caches cache) world.outside
      cases (request_of_library source asked').symm.trans asked
      have topics := Outside.topics_of_record_append recorded
      have loads := source ▸ loads_of_gains gains
      cases granting with
      | refused | barren => exact tells_charged (Topic.count_unchanged · _) loads topics
      | granted =>
          have told : Topic.of? .debug "accelerator allocation" = some (.obtained .accelerator) :=
            Topic.of?_eq_some_iff.mpr ⟨rfl, rfl⟩
          simp only [List.filterMap_cons, List.filterMap_nil, Entry.topic?, told] at topics
          refine tells_charged (Topic.count_recordAllocation · _ _) loads ?_
          rw [backend]
          exact topics

/-- A release reports what the provider counts, and that memory was leaked if it was. -/
theorem release_tells {block : Block}
    (within : (world.providers block.provider).source.Within caches)
    (served : block.length ≠ 0 → world.Served block) (number : Nat) :
    world.Tells block.provider
      (Topic.ofOutcome (world.backendOf block) (world.release number block).1)
      (world.release number block).2 := by
  unfold release
  by_cases none : block.length = 0
  · have empty : block.isEmpty = true := decide_eq_true none
    simp only [empty, ↓reduceIte]
    refine ⟨rfl, rfl, fun _ _ => rfl, (Topic.count_unchanged · _), [], .none fun _ => rfl, ?_⟩
    exact ((List.append_nil _).trans (List.append_nil _)).symm
  · have filled : block.isEmpty = false := decide_eq_false none
    let asking := world.enter
      (.returned number block.provider block.type block.address block.length)
    have entered : asking.outside.topics = world.outside.topics :=
      (Outside.topics_enter _ _ rfl).trans (List.append_nil _)
    -- Putting the return on record is on no topic, and touches nothing else that counts.
    have before {told : List Topic} {after : World P}
        (tells : asking.Tells block.provider told after) :
        world.Tells block.provider told after := by
      obtain ⟨blocks, nextProvider, others, counted, opened, loads, topics⟩ := tells
      exact ⟨blocks, nextProvider, others, counted, opened, loads, entered ▸ topics⟩
    simp only [filled, Bool.false_eq_true, ↓reduceIte]
    cases source : (world.providers block.provider).source with
    | host =>
        have backend : world.backendOf block = .host := Provider.backend_of_host source
        have told : Topic.of? .debug "host release" = some (.released .host) :=
          Topic.of?_eq_some_iff.mpr ⟨rfl, rfl⟩
        obtain ⟨bytes, sized⟩ := (served none).sized source
        obtain ⟨outside, fields, asked, recorded⟩ := HostMemory.deallocate_taking sized
          block.address (asking.providers block.provider).stats asking.outside
        rw [show asking.giveBack _ _ _ _ = _ from giveBack_of_host source asked]
        refine before (tells_charged (Topic.count_recordRelease · _ _) (.none fun _ => rfl) ?_)
        rw [Outside.topics_of_record recorded, backend, List.append_nil]
        simp only [List.filterMap_cons, List.filterMap_nil, Entry.topic?, told]
        rfl
    | library route cache =>
        have backend : world.backendOf block = .accelerator :=
          Provider.backend_of_library within source
        obtain ⟨answer, stats, later, outside, opened, made, asked, gains, taking, recorded⟩ :=
          route.deallocate_taking block.type block.address block.length cache
            (asking.providers block.provider).stats (asking.caches cache) asking.outside
        have topics := Outside.topics_of_record_append recorded
        have loads : Loads (asking.providers block.provider).source asking.caches _ _ :=
          source ▸ loads_of_gains gains
        rw [show asking.giveBack _ _ _ _ = _ from giveBack_of_library source asked]
        cases taking with
        | unreached =>
            have told : Topic.of? .error "failed to release buffer; backend memory is leaked" =
                some .leaked :=
              Topic.of?_eq_some_iff.mpr ⟨rfl, rfl⟩
            refine before (tells_charged (Topic.count_recordFailedRelease · _) loads ?_)
            refine (Outside.topics_enter _ _ rfl).trans ?_
            rw [List.filterMap_nil, List.append_nil] at topics
            simp only [Entry.topic?, told]
            exact congrArg (· ++ [Topic.leaked]) topics
        | taken =>
            have told : Topic.of? .debug "accelerator release" =
                some (.released .accelerator) :=
              Topic.of?_eq_some_iff.mpr ⟨rfl, rfl⟩
            simp only [List.filterMap_cons, List.filterMap_nil, Entry.topic?, told] at topics
            refine before (tells_charged (Topic.count_recordRelease · _ _) loads ?_)
            rw [backend]
            exact topics

end World

end TypedMemory
