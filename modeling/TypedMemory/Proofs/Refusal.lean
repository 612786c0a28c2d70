import TypedMemory.Proofs.Counterpart
import TypedMemory.Proofs.Verdict

/-!
# What a refused request leaves behind

A request that is refused changes no provider, no block and no buffer, and no cache but
that of its allocator. That cache may have gained a library, if the request itself opened
it before it failed. An entry point was called at most once, to obtain memory, and had
none; no memory is lost (`World.Spares`). A request that is malformed is refused before
anything is asked (`Session.run_spares`).
-/

namespace TypedMemory

variable {P : Platform}

namespace World

/-- What a refused request leaves of a cache and of what lies outside. -/
inductive Trail (before : World P) (registry : Registry) (cache : Nat) (type : ElementType)
    (length : Int64) : Cache P → Outside P → Prop
  | none : Trail before registry cache type length (before.caches cache) before.outside
  /-- The host was asked and had no memory. -/
  | spent {size : Nat} {state : P.State}
      (null : P.hostAlloc size type.alignment before.outside.state = (0, state)) :
      Trail before registry cache type length (before.caches cache) { before.outside with state }
  /-- The library was asked for, and no entry point was called. -/
  | uncalled {path : Path} {opened : List (Entry P)} {later : Cache P} {after : Outside P}
      (resolved : registry.resolve .accelerator =
        .ok ⟨.accelerator, .library path registry.stem⟩)
      (gains : (before.caches cache).Gains cache .accelerator path before.outside.state later
        opened)
      (recorded : after.record = before.outside.record ++ opened) :
      Trail before registry cache type length later after
  /-- The entry point that obtains was called and had no memory. -/
  | barren {path : Path} {opened : List (Entry P)} {later : Cache P} {after : Outside P}
      {loaded : LoadedLibrary P}
      (resolved : registry.resolve .accelerator =
        .ok ⟨.accelerator, .library path registry.stem⟩)
      (gains : (before.caches cache).Gains cache .accelerator path before.outside.state later
        opened)
      (recorded : after.record = before.outside.record ++ opened ++
        [.called loaded (symbolName registry.stem type .alloc) (.alloc length 0)]) :
      Trail before registry cache type length later after

/-- What a refused request does not touch, and what it leaves of the rest. -/
structure Spares (before : World P) (registry : Registry) (cache : Nat) (type : ElementType)
    (length : Int64) (after : World P) : Prop where
  providers : after.providers = before.providers
  nextProvider : after.nextProvider = before.nextProvider
  blocks : after.blocks = before.blocks
  buffers : after.buffers = before.buffers
  nextBuffer : after.nextBuffer = before.nextBuffer
  caches : ∀ other, other ≠ cache → after.caches other = before.caches other
  trail : before.Trail registry cache type length (after.caches cache) after.outside

variable {world after : World P} {registry : Registry} {cache number : Nat}
  {type : ElementType} {length : Int64} {error : Error}

theorem Spares.refl (world : World P) (registry : Registry) (cache : Nat) (type : ElementType)
    (length : Int64) : world.Spares registry cache type length world :=
  ⟨rfl, rfl, rfl, rfl, rfl, fun _ _ => rfl, .none⟩

/-- A dealing that leaves the counters as they are spares what the trail does not
tell of. -/
theorem spares_charged {later : Cache P} {outside : Outside P}
    (trail : world.Trail registry cache type length later outside) :
    world.Spares registry cache type length
      (world.charged number (world.providers number).stats (replace world.caches cache later)
        outside) where
  providers := replace_self _ _
  nextProvider := rfl
  blocks := rfl
  buffers := rfl
  nextBuffer := rfl
  caches _ other := replace_other _ _ other
  trail := by
    change world.Trail registry cache type length (replace world.caches cache later cache) outside
    rwa [replace_same]

/-- A host provider that refuses a buffer spares counters, blocks and caches, and calls nothing.
-/
theorem obtainBuffer_spares_host (source : (world.providers number).source = .host)
    (failed : world.obtainBuffer number type (UInt64.ofNat length.toInt.toNat) =
      (.error error, after)) : world.Spares registry cache type length after := by
  rcases obtainBuffer_error_iff.mp failed with ⟨_, refused⟩ | ⟨_, refused⟩
  · rw [prepare_of_host source] at refused
    cases refused
  · obtain ⟨answer, stats, outside, asked, granting⟩ :=
      HostMemory.allocate_granting type (UInt64.ofNat length.toInt.toNat)
        (world.providers number).stats world.outside
    rw [request_of_host source asked] at refused
    cases refused
    rw [← replace_self world.caches cache]
    cases granting with
    | refused => exact spares_charged .none
    | spent null => exact spares_charged (.spent null)

/-- A provider with a library that refuses a buffer has opened the library at most, and called
one entry point in vain at most. -/
theorem obtainBuffer_spares_library {path : Path} (signed : ¬ length < 0)
    (resolved : registry.resolve .accelerator = .ok ⟨.accelerator, .library path registry.stem⟩)
    (source : (world.providers number).source = .library (registry.route path) cache)
    (failed : world.obtainBuffer number type (UInt64.ofNat length.toInt.toNat) =
      (.error error, after)) : world.Spares registry cache type length after := by
  rcases obtainBuffer_error_iff.mp failed with ⟨_, refused⟩ | ⟨nonempty, refused⟩
  · obtain ⟨opened, gains, recorded⟩ :=
      (registry.route path).prepare_gains type cache (world.caches cache) world.outside
    rcases asked : (registry.route path).prepare type cache (world.caches cache) world.outside
      with ⟨answer, later, outside⟩
    rw [prepare_of_library source asked] at refused
    cases refused
    rw [asked] at gains recorded
    exact spares_charged (.uncalled resolved gains recorded)
  · obtain ⟨answer, stats, later, outside, opened, made, asked, gains, granting, recorded⟩ :=
      (registry.route path).allocate_granting type (UInt64.ofNat length.toInt.toNat) cache
        (world.providers number).stats (world.caches cache) world.outside
    rw [request_of_library source asked] at refused
    cases refused
    cases granting with
    | refused =>
        rw [List.append_nil] at recorded
        exact spares_charged (.uncalled resolved gains recorded)
    | barren =>
        rw [(signed_of_word signed nonempty).1] at recorded
        exact spares_charged (.barren resolved gains recorded)

/-- A request that is refused spares what it did not need. -/
theorem allocate_spares {allocator : Allocator} {backend : Backend}
    (furnishes : world.Furnishes allocator registry cache)
    (failed : (world.allocate allocator length type backend).1 = .error error) :
    world.Spares registry cache type length (world.allocate allocator length type backend).2 := by
  have obtained (number : Nat) (refused : (world.obtainBuffer number type
      (UInt64.ofNat length.toInt.toNat)).1 = .error error) :
      world.obtainBuffer number type (UInt64.ofNat length.toInt.toNat) =
        (.error error, (world.obtainBuffer number type (UInt64.ofNat length.toInt.toNat)).2) :=
    Prod.ext refused rfl
  unfold allocate at failed ⊢
  split at failed
  · next negative =>
      rw [if_pos negative]
      exact .refl ..
  · next signed =>
      rw [if_neg signed]
      cases backend with
      | host => exact obtainBuffer_spares_host furnishes.host (obtained _ failed)
      | accelerator =>
          rcases registry.resolve_accelerator_cases with ⟨message, unresolved⟩ | ⟨path, resolved⟩
          · rw [furnishes.provider_unresolved unresolved]
            exact .refl ..
          · obtain ⟨number, served, source⟩ := furnishes.provider_accelerator resolved
            rw [served] at failed ⊢
            exact obtainBuffer_spares_library signed resolved source (obtained _ failed)

/-- So does a request by text; a text that names nothing spares everything. -/
theorem allocateNamed_spares {allocator : Allocator} {name backend : String}
    (furnishes : world.Furnishes allocator registry cache)
    (failed : (world.allocateNamed allocator length name backend).1 = .error error) :
    ∃ type, world.Spares registry cache type length
      (world.allocateNamed allocator length name backend).2 := by
  unfold allocateNamed at failed ⊢
  cases parsed : Backend.parse backend with
  | error _ => exact ⟨.int8, .refl ..⟩
  | ok backend =>
      rw [parsed] at failed
      dsimp only at failed ⊢
      cases parsed : ElementType.parse name with
      | error _ => exact ⟨.int8, .refl ..⟩
      | ok type =>
          rw [parsed] at failed
          exact ⟨type, allocate_spares furnishes failed⟩

end World

/-- So does every step that asks an allocator for a buffer. -/
theorem Step.request_spares {taken : Step P} {number : Nat}
    {ask : World P → Allocator → Except Error Nat × World P}
    (addressed : taken.request? = some (number, ask)) {world : World P} {allocator : Allocator}
    {registry : Registry} {cache : Nat} (furnishes : world.Furnishes allocator registry cache)
    {error : Error} (refused : (ask world allocator).1 = .error error) :
    ∃ type length, taken.requested? = some length ∧
      world.Spares registry cache type length (ask world allocator).2 := by
  cases taken with
  | allocate _ length type backend =>
      cases addressed
      exact ⟨type, length, rfl, World.allocate_spares furnishes refused⟩
  | allocateNamed _ length type backend =>
      cases addressed
      obtain ⟨element, spares⟩ := World.allocateNamed_spares furnishes refused
      exact ⟨element, length, rfl, spares⟩
  | drift | make | discard | clone | drop | write => cases addressed

/-- A request that cannot be right, wherever it is made: for a negative length, or for a
type or a backend that nobody knows. -/
def Step.Malformed : Step P → Prop
  | .allocate _ length _ _ => length < 0
  | .allocateNamed _ length type backend =>
      length < 0 ∨ (∃ error, ElementType.parse type = .error error) ∨
        ∃ error, Backend.parse backend = .error error
  | _ => False

/-- A malformed request is refused with an error of its own, and nothing else happens. -/
theorem Step.Malformed.refused {taken : Step P} (malformed : taken.Malformed) {number : Nat}
    {ask : World P → Allocator → Except Error Nat × World P}
    (addressed : taken.request? = some (number, ask)) :
    ∃ error, ∀ world allocator, ask world allocator = (.error error, world) := by
  cases taken with
  | allocate _ length type backend =>
      cases addressed
      exact ⟨_, fun _ allocator => World.allocate_of_negative malformed allocator backend⟩
  | allocateNamed _ length type backend =>
      cases addressed
      unfold World.allocateNamed
      cases parsed : Backend.parse backend with
      | error error => exact ⟨error, fun _ _ => rfl⟩
      | ok memory =>
          cases parsed' : ElementType.parse type with
          | error error => exact ⟨error, fun _ _ => rfl⟩
          | ok element =>
              rcases malformed with negative | ⟨error, unknown⟩ | ⟨error, unknown⟩
              · exact ⟨_, fun _ allocator => World.allocate_of_negative negative allocator memory⟩
              · cases parsed'.symm.trans unknown
              · cases parsed.symm.trans unknown
  | drift | make | discard | clone | drop | write => cases addressed

namespace Session

/-- **A refused request leaves no trace.** Whatever was done before, a request that an
allocator refuses spares all providers, all blocks and buffers, and all caches but that of
the allocator, which gains at most the library that the request itself opened. If the
request is malformed, it is refused alike by every allocator in every world, and nothing
at all changes. -/
theorem run_spares (state : P.State) (earlier later : List (Step P)) (registry : Registry)
    (cache : Nat) (taken : Step P) (ask : World P → Allocator → Except Error Nat × World P)
    (addressed : taken.request? = some (((start state).run earlier).nextAllocator, ask))
    (error : Error)
    (failed : ((start state).run (earlier ++ .make registry cache :: later)).reply taken =
      some (.error error)) :
    let session := (start state).run (earlier ++ .make registry cache :: later)
    (∃ type length, taken.requested? = some length ∧
      session.world.Spares registry cache type length (session.step taken).world) ∧
    (taken.Malformed → session.step taken = session ∧
      ∀ world allocator, ask world allocator = (.error error, world)) := by
  intro session
  cases held : session.allocators ((start state).run earlier).nextAllocator with
  | none => cases (idle_request addressed held).reply.symm.trans failed
  | some allocator =>
      have answers := answers_request addressed held
      have furnishes := furnished_run held
      have refused : (ask session.world allocator).1 = .error error :=
        Option.some.inj (answers.reply.symm.trans failed)
      rw [answers.after]
      refine ⟨Step.request_spares addressed furnishes refused, ?_⟩
      intro malformed
      obtain ⟨other, always⟩ := malformed.refused addressed
      rw [always] at refused ⊢
      cases refused
      exact ⟨rfl, always⟩

open Simulation

/-- A library is opened, and then its entry point has no memory. -/
theorem barren_spares :
    let session := (start (P := Machine.platform) {}).run
      ([] ++ .make ⟨some Linker.library, "", "null_"⟩ 0 :: [.allocate 0 3 .float64 .host])
    let taken : Step Machine.platform := .allocate 0 5 .int32 .accelerator
    session.reply taken = some (.error (.exhausted "5" "int32" "accelerator"
      "backend allocation routine returned null")) ∧
    ((session.step taken).world.caches 0).loads = 1 ∧
    ∃ type length, taken.requested? = some length ∧
      session.world.Spares ⟨some Linker.library, "", "null_"⟩ 0 type length
        (session.step taken).world := by
  intro session taken
  have failed : session.reply taken = some (.error (.exhausted "5" "int32" "accelerator"
      "backend allocation routine returned null")) := by
    decide +kernel
  exact ⟨failed, by decide +kernel, (run_spares _ _ _ _ _ taken _ rfl _ failed).1⟩

end Session

end TypedMemory
