import Mathlib.Control.Monad.Basic
import TypedMemory.Proofs.Keeping
import TypedMemory.Proofs.Lookup
import TypedMemory.Proofs.Reachable

/-!
# Permanent refusals

An error that is not recoverable is final: the request that met it meets it again,
however long one waits. A negative length and a backend that the registry does not
know are refused without looking at the world. A length that does not fit is refused
by its provider, whose source never changes. And a library that lacks an entry point
stays in its cache, so that no later request gets another library
(`World.Hopeless.extends`).

A process is a session together with what its allocators are made from: environment
variables, and settings that are kept in a file. None of these is looked at again
once an allocator is made, which is why a refusal outlasts every change of them
(`Process.run_refuses_again`).
-/

namespace TypedMemory

variable {P : Platform}

namespace LoadedLibrary

/-- Every look-up of the name ends in this error. -/
def Refuses (loaded : LoadedLibrary P) (name : String) (error : Error) : Prop :=
  ∀ outside, loaded.resolve name outside = (.error error, outside)

/-- Every look-up of the name finds an entry point. -/
def Finds (loaded : LoadedLibrary P) (name : String) : Prop :=
  ∀ outside, ∃ entry after, loaded.resolve name outside = (.ok entry, after)

/-- Where look-ups are fixed, a name that is refused once is refused always. -/
theorem refuses_of_fixed (fixed : P.FixedLookUps) {loaded : LoadedLibrary P} {name : String}
    {error : Error} {outside after : Outside P}
    (refused : loaded.resolve name outside = (.error error, after)) :
    loaded.Refuses name error := by
  intro later
  unfold resolve at refused ⊢
  rw [fixed loaded.library name later.state outside.state]
  cases looked : P.lookUp loaded.library name outside.state with
  | missing | null =>
      rw [looked] at refused
      cases refused
      rfl
  | found routine =>
      rw [looked] at refused
      cases refused

/-- Where look-ups are fixed, a name that is found once is found always. -/
theorem finds_of_fixed (fixed : P.FixedLookUps) {loaded : LoadedLibrary P} {name : String}
    {entry : EntryPoint P} {outside after : Outside P}
    (found : loaded.resolve name outside = (.ok entry, after)) : loaded.Finds name := by
  intro later
  unfold resolve at found ⊢
  rw [fixed loaded.library name later.state outside.state]
  cases looked : P.lookUp loaded.library name outside.state with
  | missing | null =>
      rw [looked] at found
      cases found
  | found routine => exact ⟨_, _, rfl⟩

/-- The library lacks an entry point that a request needs. A request for no elements
needs both entry points of its type, and any other only the one that obtains. -/
inductive Withholds (loaded : LoadedLibrary P) (route : Route) (type : ElementType)
    (length : UInt64) : Error → Prop
  | alloc {error : Error} (refuses : loaded.Refuses (route.symbol type .alloc) error) :
      Withholds loaded route type length error
  | dealloc {error : Error} (empty : length = 0) (finds : loaded.Finds (route.symbol type .alloc))
      (refuses : loaded.Refuses (route.symbol type .dealloc) error) :
      Withholds loaded route type length error

end LoadedLibrary

/-- A loader's errors are all recoverable, so a final error comes from behind it. -/
theorem Cache.acquire_ok_of_final (loading : P.FailsByLoading) {cache : Cache P} {number : Nat}
    {route : Route} {outside : Outside P} {error : Error} (final : error.isRecoverable = false) :
    (cache.acquire number route.descriptor outside).1 ≠ .error error := by
  intro refused
  obtain ⟨place, reason, rfl⟩ := loading _ _ _ _ (opening_of_acquire_error refused)
  cases final

namespace Route

variable {route : Route} {type : ElementType} {length : UInt64} {number : Nat}
  {cache later : Cache P} {outside after : Outside P} {error : Error}

/-- If making sure that blocks could be had ends in a final error, the library is cached and
lacks an entry point. -/
theorem prepare_withheld (fixed : P.FixedLookUps) (loading : P.FailsByLoading)
    (failed : route.prepare type number cache outside = (.error error, later, after))
    (final : error.isRecoverable = false) :
    ∃ loaded, later.get? route.backend = some loaded ∧ loaded.Withholds route type 0 error := by
  have acquired := Cache.acquire_acquired number cache route.descriptor outside
  have opened : (cache.acquire number route.descriptor outside).1 ≠ .error error :=
    Cache.acquire_ok_of_final loading final
  unfold prepare at failed
  rcases asked : cache.acquire number route.descriptor outside with
    ⟨refusal | loaded, middle, outside₁⟩
  · rw [asked] at opened
    simp only [asked] at failed
    cases failed
    exact (opened rfl).elim
  · rw [asked] at acquired
    have cached : middle.get? route.backend = some loaded := acquired.cached loaded rfl
    simp only [asked] at failed
    rcases first : loaded.resolve (route.symbol type .alloc) outside₁ with
      ⟨refusal | entry, outside₂⟩
    · simp only [first] at failed
      cases failed
      exact ⟨loaded, cached, .alloc (LoadedLibrary.refuses_of_fixed fixed first)⟩
    · simp only [first] at failed
      rcases second : loaded.resolve (route.symbol type .dealloc) outside₂ with
        ⟨refusal | _, outside₃⟩
      · simp only [second] at failed
        cases failed
        refine ⟨loaded, cached, .dealloc rfl ?_ ?_⟩
        · exact LoadedLibrary.finds_of_fixed fixed first
        · exact LoadedLibrary.refuses_of_fixed fixed second
      · simp only [second] at failed
        cases failed

/-- A library that is cached and lacks an entry point fails every later attempt with the same
error. -/
theorem prepare_of_withheld {loaded : LoadedLibrary P}
    (cached : cache.get? route.backend = some loaded)
    (withheld : loaded.Withholds route type 0 error) :
    (route.prepare type number cache outside).1 = .error error := by
  unfold prepare
  rw [Cache.acquire_of_cached cached]
  cases withheld with
  | alloc refuses => simp only [refuses (loaded.handOut route.path outside)]
  | dealloc _ finds refuses =>
      obtain ⟨entry, after, found⟩ := finds (loaded.handOut route.path outside)
      simp only [found, refuses after]

/-- The error of a length that does not fit the argument of an entry point. -/
def tooLong (type : ElementType) (length : UInt64) : Error :=
  .invalidLength (toString length.toNat) type.name "accelerator"
    "length exceeds the signed 64-bit ABI"

/-- If obtaining a block ends in a final error, the block is too long, or the library is cached
and lacks the entry point. -/
theorem allocate_withheld (fixed : P.FixedLookUps) (loading : P.FailsByLoading)
    {stats stats' : Stats}
    (failed : route.allocate type length number stats cache outside =
      (.error error, stats', later, after))
    (final : error.isRecoverable = false) :
    signedLimit ≤ length.toNat ∧ error = tooLong type length ∨
      length.toNat < signedLimit ∧ ∃ loaded, later.get? route.backend = some loaded ∧
        loaded.Withholds route type length error := by
  have opened : (cache.acquire number route.descriptor outside).1 ≠ .error error :=
    Cache.acquire_ok_of_final loading final
  have acquired := Cache.acquire_acquired number cache route.descriptor outside
  unfold allocate at failed
  split at failed
  · next long =>
      cases failed
      exact .inl ⟨long, rfl⟩
  · next short =>
      refine .inr ⟨Nat.lt_of_not_le short, ?_⟩
      unfold reach at failed
      rcases asked : cache.acquire number route.descriptor outside with
        ⟨refusal | loaded, middle, outside₁⟩
      · rw [asked] at opened
        simp only [asked] at failed
        cases failed
        exact (opened rfl).elim
      · rw [asked] at acquired
        simp only [asked] at failed
        rcases looked : loaded.resolve (route.symbol type .alloc) outside₁ with
          ⟨refusal | entry, outside₂⟩
        · simp only [looked] at failed
          cases failed
          refine ⟨loaded, acquired.cached loaded rfl, .alloc ?_⟩
          exact LoadedLibrary.refuses_of_fixed fixed looked
        · -- An entry point that has no memory now may have some later.
          simp only [looked] at failed
          split at failed
          · cases failed
            cases final
          · cases failed

/-- A library that is cached and lacks the entry point refuses every later block with the same
error. -/
theorem allocate_of_withheld {stats : Stats} {loaded : LoadedLibrary P}
    (short : length.toNat < signedLimit) (nonempty : length ≠ 0)
    (cached : cache.get? route.backend = some loaded)
    (withheld : loaded.Withholds route type length error) :
    (route.allocate type length number stats cache outside).1 = .error error := by
  unfold allocate reach
  rw [if_neg (Nat.not_le_of_lt short), Cache.acquire_of_cached cached]
  cases withheld with
  | alloc refuses => simp only [refuses (loaded.handOut route.path outside)]
  | dealloc empty => exact (nonempty empty).elim

end Route

namespace World

/-- A provider that will never serve a request, for what its source is or for what
its library lacks. -/
inductive Hopeless (world : World P) (number : Nat) (type : ElementType) (length : UInt64) :
    Error → Prop
  | unsized {error : Error} (source : (world.providers number).source = .host)
      (nonempty : length ≠ 0) (sized : HostMemory.layout type length = .error error) :
      Hopeless world number type length error
  | tooLong {route : Route} {cache : Nat}
      (source : (world.providers number).source = .library route cache) (nonempty : length ≠ 0)
      (long : signedLimit ≤ length.toNat) :
      Hopeless world number type length (Route.tooLong type length)
  | withheld {route : Route} {cache : Nat} {loaded : LoadedLibrary P} {error : Error}
      (source : (world.providers number).source = .library route cache)
      (short : length.toNat < signedLimit)
      (cached : (world.caches cache).get? route.backend = some loaded)
      (withheld : loaded.Withholds route type length error) :
      Hopeless world number type length error

variable {number : Nat} {type : ElementType} {length : UInt64} {error : Error}

/-- What is hopeless stays so: providers keep their sources and caches their libraries. -/
theorem Hopeless.extends {before after : World P} (hopeless : before.Hopeless number type length error)
    (later : before.Extends after) (known : number < before.nextProvider) :
    after.Hopeless number type length error := by
  have same := later.source number known
  cases hopeless with
  | unsized source nonempty sized => exact .unsized (same.trans source) nonempty sized
  | tooLong source nonempty long => exact .tooLong (same.trans source) nonempty long
  | withheld source short cached withheld =>
      exact .withheld (same.trans source) short (later.kept _ _ _ cached) withheld

/-- A final error of making sure that blocks could be had is there for good. -/
theorem prepare_hopeless (fixed : P.FixedLookUps) (loading : P.FailsByLoading)
    {world after : World P} (failed : world.prepare number type = (.error error, after))
    (final : error.isRecoverable = false) : after.Hopeless number type 0 error := by
  unfold prepare at failed
  split at failed
  · cases failed
  · next route cache source =>
      rcases asked : route.prepare type cache (world.caches cache) world.outside with
        ⟨answer, later, outside⟩
      simp only [asked] at failed
      cases failed
      obtain ⟨loaded, cached, withheld⟩ := Route.prepare_withheld fixed loading asked final
      exact .withheld source (by decide) (by simpa using cached) withheld

/-- A final error of a request is there for good, whether it comes from the host or from a
library. -/
theorem request_hopeless (fixed : P.FixedLookUps) (loading : P.FailsByLoading)
    {world after : World P} (nonempty : length ≠ 0)
    (failed : world.request number type length = (.error error, after))
    (final : error.isRecoverable = false) : after.Hopeless number type length error := by
  have kept := (requested_of failed).1.source number
  dsimp only [request] at failed
  split at failed
  · next source =>
      refine .unsized (kept.trans source) nonempty ?_
      unfold HostMemory.allocate at failed
      cases sized : HostMemory.layout type length with
      | error refusal =>
          simp only [sized] at failed
          cases failed
          rfl
      | ok bytes =>
          simp only [sized] at failed
          split at failed
          · cases failed
          · split at failed
            · cases failed
              cases final
            · cases failed
  · next route cache source =>
      rcases asked : route.allocate type length cache (world.providers number).stats
        (world.caches cache) world.outside with ⟨answer, stats, later, outside⟩
      simp only [asked] at failed
      cases failed
      rcases Route.allocate_withheld fixed loading asked final with
        ⟨long, rfl⟩ | ⟨short, loaded, cached, withheld⟩
      · exact .tooLong (kept.trans source) nonempty long
      · exact .withheld (kept.trans source) short (by simpa using cached) withheld

/-- A buffer is not obtained exactly if its provider refuses. -/
theorem obtainBuffer_error_iff {world after : World P} :
    world.obtainBuffer number type length = (.error error, after) ↔
      length = 0 ∧ world.prepare number type = (.error error, after) ∨
        length ≠ 0 ∧ world.request number type length = (.error error, after) := by
  unfold obtainBuffer
  by_cases empty : length = 0
  · rcases world.prepare number type with ⟨refusal | _, later⟩ <;> simp [empty]
  · rcases world.request number type length with ⟨refusal | _, later⟩ <;> simp [empty]

/-- A final error of obtaining a buffer is there for good, with elements or without. -/
theorem obtainBuffer_hopeless (fixed : P.FixedLookUps) (loading : P.FailsByLoading)
    {world after : World P}
    (failed : world.obtainBuffer number type length = (.error error, after))
    (final : error.isRecoverable = false) : after.Hopeless number type length error := by
  rcases obtainBuffer_error_iff.mp failed with ⟨rfl, unprepared⟩ | ⟨nonempty, refused⟩
  · exact prepare_hopeless fixed loading unprepared final
  · exact request_hopeless fixed loading nonempty refused final

/-- A hopeless request for no elements fails. -/
theorem Hopeless.prepare {world : World P} (hopeless : world.Hopeless number type 0 error) :
    (world.prepare number type).1 = .error error := by
  cases hopeless with
  | unsized _ nonempty => exact (nonempty rfl).elim
  | tooLong _ nonempty => exact (nonempty rfl).elim
  | withheld source _ cached withheld =>
      unfold World.prepare
      rw [source]
      exact Route.prepare_of_withheld cached withheld

/-- A hopeless request for elements fails. -/
theorem Hopeless.request {world : World P} (hopeless : world.Hopeless number type length error)
    (nonempty : length ≠ 0) : (world.request number type length).1 = .error error := by
  dsimp only [World.request]
  cases hopeless with
  | unsized source _ sized =>
      rw [source]
      simp only [HostMemory.allocate, sized]
  | tooLong source _ long =>
      rw [source]
      simp only [Route.allocate, long, ↓reduceIte]
      rfl
  | withheld source short cached withheld =>
      rw [source]
      exact Route.allocate_of_withheld short nonempty cached withheld

/-- A hopeless buffer is refused. -/
theorem Hopeless.obtainBuffer {world : World P}
    (hopeless : world.Hopeless number type length error) :
    (world.obtainBuffer number type length).1 = .error error := by
  have refused : ∃ after, world.obtainBuffer number type length = (.error error, after) := by
    by_cases empty : length = 0
    · subst empty
      exact ⟨_, obtainBuffer_error_iff.mpr (.inl ⟨rfl, Prod.ext hopeless.prepare rfl⟩)⟩
    · exact ⟨_, obtainBuffer_error_iff.mpr
        (.inr ⟨empty, Prod.ext (hopeless.request empty) rfl⟩)⟩
  obtain ⟨after, equation⟩ := refused
  rw [equation]

/-- A request that an allocator will never be served. -/
inductive Denied (world : World P) (allocator : Allocator) (length : Int64) (type : ElementType)
    (backend : Backend) : Error → Prop
  /-- The world plays no part in the refusal. -/
  | outright {error : Error}
      (refused : ∀ other : World P,
        (other.allocate allocator length type backend).1 = .error error) :
      Denied world allocator length type backend error
  | hopeless {number : Nat} {error : Error} (signed : ¬ length < 0)
      (served : allocator.provider backend = .ok number) (known : number < world.nextProvider)
      (hopeless : world.Hopeless number type (.ofNat length.toInt.toNat) error) :
      Denied world allocator length type backend error

variable {allocator : Allocator} {backend : Backend}

/-- A final error of an allocator is one that it gives whatever the world, or one that its
provider will always give. -/
theorem allocate_denied (fixed : P.FixedLookUps) (loading : P.FailsByLoading) {world : World P}
    {length : Int64} (known : Session.Known world allocator)
    (failed : (world.allocate allocator length type backend).1 = .error error)
    (final : error.isRecoverable = false) :
    (world.allocate allocator length type backend).2.Denied allocator length type backend
      error := by
  by_cases negative : length < 0
  · refine .outright fun other => ?_
    unfold allocate at failed ⊢
    rw [if_pos negative] at failed ⊢
    exact failed
  · cases served : allocator.provider backend with
    | error refusal =>
        refine .outright fun other => ?_
        unfold allocate at failed ⊢
        simp only [negative, ↓reduceIte, served] at failed ⊢
        exact failed
    | ok number =>
        have equation : world.allocate allocator length type backend =
            world.obtainBuffer number type (.ofNat length.toInt.toNat) := by
          unfold allocate
          simp only [negative, ↓reduceIte, served]
        have moved : world.Move (fun _ => True)
            (world.obtainBuffer number type (.ofNat length.toInt.toNat)).2 :=
          world.obtainBuffer_move type _ (known.provider served)
        rw [equation] at failed ⊢
        exact .hopeless negative served
          (Nat.lt_of_lt_of_le (known.provider served) moved.extends.nextProvider)
          (obtainBuffer_hopeless fixed loading (Prod.ext failed rfl) final)

/-- What an allocator is denied it is denied in every later world. -/
theorem Denied.extends {before after : World P} {length : Int64}
    (denied : before.Denied allocator length type backend error)
    (later : before.Extends after) : after.Denied allocator length type backend error := by
  cases denied with
  | outright refused => exact .outright refused
  | hopeless signed served known hopeless =>
      exact .hopeless signed served (Nat.lt_of_lt_of_le known later.nextProvider)
        (hopeless.extends later known)

/-- What an allocator is denied it does not get. -/
theorem Denied.allocate {world : World P} {length : Int64}
    (denied : world.Denied allocator length type backend error) :
    (world.allocate allocator length type backend).1 = .error error := by
  cases denied with
  | outright refused => exact refused world
  | hopeless signed served _ hopeless =>
      unfold World.allocate
      simp only [signed, ↓reduceIte, served]
      exact hopeless.obtainBuffer

end World

namespace Session

/-- A run leads to its world by moves. -/
theorem Sound.follows {session : Session P} (sound : session.Sound fun _ => True)
    (steps : List (Step P)) :
    session.world.Follows (fun _ => True) (session.run steps).world := by
  induction steps generalizing session with
  | nil => exact .refl
  | cons step steps ih =>
      have allowed : step.Within fun _ => True := by cases step <;> trivial
      exact (step_follows sound.known allowed).trans (ih (sound.step allowed))

/-- Numbers of allocators are never given out again. -/
theorem nextAllocator_step (session : Session P) (taken : Step P) :
    session.nextAllocator ≤ (session.step taken).nextAllocator := by
  cases taken with
  | make => exact Nat.le_succ _
  | drift | discard | drop => exact Nat.le_refl _
  | allocate | allocateNamed | clone | write =>
      dsimp only [Session.step]
      split <;> exact Nat.le_refl _

/-- The number of an allocator is never given to another one. -/
theorem allocators_run {session : Session P} {number : Nat} {allocator : Allocator}
    (below : number < session.nextAllocator)
    (only : ∀ other, session.allocators number = some other → other = allocator)
    (steps : List (Step P)) {other : Allocator}
    (held : (session.run steps).allocators number = some other) : other = allocator := by
  induction steps generalizing session with
  | nil => exact only other held
  | cons step steps ih =>
      refine ih (Nat.lt_of_lt_of_le below (session.nextAllocator_step step)) ?_ held
      intro other held
      rcases allocators_step held with older | ⟨same, _⟩
      · exact only other older
      · exact (Nat.ne_of_lt below same).elim

/-- An allocator that is there has a number that was given out. -/
theorem numbered_run {session : Session P}
    (numbered : ∀ number allocator, session.allocators number = some allocator →
      number < session.nextAllocator)
    (steps : List (Step P)) {number : Nat} {allocator : Allocator}
    (held : (session.run steps).allocators number = some allocator) :
    number < (session.run steps).nextAllocator := by
  induction steps generalizing session with
  | nil => exact numbered number allocator held
  | cons step steps ih =>
      refine ih ?_ held
      intro number allocator held
      rcases allocators_step held with older | ⟨rfl, _, _, rfl, _⟩
      · exact Nat.lt_of_lt_of_le (numbered number allocator older) (session.nextAllocator_step step)
      · exact Nat.lt_succ_self _

/-- A request that was refused for good is refused after every further step. -/
theorem Sound.refuses_again (fixed : P.FixedLookUps) (loading : P.FailsByLoading)
    {session : Session P} (sound : session.Sound fun _ => True) {number : Nat}
    {allocator : Allocator} (held : session.allocators number = some allocator) {length : Int64}
    {type : ElementType} {backend : Backend} {error : Error}
    (failed : (session.world.allocate allocator length type backend).1 = .error error)
    (final : error.isRecoverable = false) (steps : List (Step P)) :
    (((session.step (.allocate number length type backend)).run steps).world.allocate allocator
      length type backend).1 = .error error := by
  have stepped : session.step (.allocate number length type backend) =
      session.inWorld (session.world.allocate allocator length type backend).2 := by
    dsimp only [Session.step]
    rw [held]
  have denied := World.allocate_denied fixed loading (sound.known number allocator held) failed
    final
  have after : (session.step (.allocate number length type backend)).Sound fun _ => True :=
    sound.step trivial
  rw [stepped] at after ⊢
  exact (denied.extends (after.follows steps).extends).allocate

end Session

/-- A session, and what its allocators are made from. -/
structure Process (P : Platform) (σ : Type) where
  session : Session P
  environment : Environment
  archive : Archive σ

/-- What may happen in a process. -/
inductive Happening (P : Platform) where
  | act (step : Step P)
  /-- An allocator is made from the settings in force and the environment, and takes
  its library from a cache. -/
  | equip (cache : Nat)
  | setVariable (name : String) (value : Bytes)
  | unsetVariable (name : String)
  | manage (action : Manager.Action)

namespace Process

variable {σ : Type}

/-- A process before anything happened in it. -/
def start (state : P.State) (environment : Environment) (archive : Archive σ) : Process P σ :=
  { session := .start state, environment, archive }

def happen (files : FileSystem σ) (process : Process P σ) : Happening P → Process P σ
  | .act step => { process with session := process.session.step step }
  | .equip cache =>
      { process with
        session := process.session.step
          (.make (.ofSettings process.archive.manager.settings.accelerator process.environment)
            cache) }
  | .setVariable name value => { process with environment := process.environment.set name value }
  | .unsetVariable name => { process with environment := process.environment.unset name }
  | .manage action => { process with archive := process.archive.step files action }

def run (files : FileSystem σ) (process : Process P σ) (happenings : List (Happening P)) :
    Process P σ :=
  happenings.foldl (happen files) process

/-- To its session, all that happens in a process is some steps. -/
theorem run_session (files : FileSystem σ) (process : Process P σ)
    (happenings : List (Happening P)) :
    ∃ steps, (process.run files happenings).session = process.session.run steps := by
  induction happenings generalizing process with
  | nil => exact ⟨[], rfl⟩
  | cons happening happenings ih =>
      obtain ⟨steps, equation⟩ := ih (process.happen files happening)
      cases happening with
      | act step => exact ⟨step :: steps, equation⟩
      | equip cache => exact ⟨.make _ cache :: steps, equation⟩
      | setVariable | unsetVariable | manage => exact ⟨steps, equation⟩

/-- **Permanent refusals.** If loaders fail by errors of loading only and libraries
answer a name always alike, then a request that failed with an error which is not
recoverable fails with the same error after everything that may happen: requests to
this and to other allocators, clones and drops, other outcomes of loading, and changes
of the environment, of the settings and of the files they are kept in. -/
theorem run_refuses_again (fixed : P.FixedLookUps) (loading : P.FailsByLoading)
    (files : FileSystem σ) (state : P.State) (environment : Environment) (archive : Archive σ)
    (earlier later : List (Happening P)) (number : Nat) (allocator : Allocator)
    (length : Int64) (type : ElementType) (backend : Backend) (error : Error)
    (held : ((start state environment archive).run files earlier).session.allocators number =
      some allocator)
    (failed : (((start state environment archive).run files earlier).session.world.allocate
      allocator length type backend).1 = .error error)
    (final : error.isRecoverable = false) :
    let process := (start state environment archive).run files
      (earlier ++ .act (.allocate number length type backend) :: later)
    (∀ other, process.session.allocators number = some other → other = allocator) ∧
      (process.session.world.allocate allocator length type backend).1 = .error error := by
  intro process
  obtain ⟨steps, before⟩ := run_session files (start state environment archive) earlier
  obtain ⟨more, after⟩ := run_session files
    (((start state environment archive).run files earlier).happen files
      (.act (.allocate number length type backend))) later
  have reached : process.session =
      ((((Session.start state).run steps).step (.allocate number length type backend)).run
        more) := by
    refine Eq.trans ?_ (after.trans (congrArg (fun session : Session P =>
      (session.step (.allocate number length type backend)).run more) before))
    exact congrArg Process.session (List.foldl_append ..)
  change _ = (Session.start state).run steps at before
  rw [before] at held failed
  have sound : ((Session.start state).run steps).Sound fun _ => True :=
    (Session.start_sound state).run steps fun step _ => by cases step <;> trivial
  have below := @Session.numbered_run P (.start state) nofun steps number allocator held
  rw [reached]
  constructor
  · intro other again
    refine Session.allocators_run below ?_ (.allocate number length type backend :: more) again
    intro other same
    exact Option.some.inj (same.symm.trans held)
  · exact sound.refuses_again fixed loading held failed final more

section Mending

open Simulation

/-- A process without files. -/
def bare : Process Linker.platform FileTree := start ({} : Machine) {} ⟨{}, {}⟩

/-- A library is loaded for one allocator. Another allocator is then made from the
environment, under a stem for which the library is incomplete. -/
def outfitted : List (Happening Linker.platform) :=
  [.act (.make ⟨some (.ofText "././libkernels.so"), "", "awkward_cuda_ptr"⟩ 0),
    .act (.allocate 0 3 .float32 .accelerator),
    .setVariable "KM_LIBRARY" (Utf8.encode "./libkernels.so"),
    .manage (.update fun settings => settings.withAccelerator fun accelerator =>
      { accelerator with libraryEnv := "KM_LIBRARY", symbolPrefix := "partial_" }),
    .equip 0]

/-- The settings are mended, the variable goes, and the first allocator is used on. -/
def mended : List (Happening Linker.platform) :=
  [.manage (.update fun _ => {}),
    .manage (.update fun settings => settings.withLibraryPath Linker.library),
    .unsetVariable "KM_LIBRARY", .equip 0, .act (.drop 0),
    .act (.allocate 0 0 .float32 .accelerator)]

/-- The error that came before everything was mended comes again afterwards. -/
theorem mended_refuses_again :
    let allocator : Allocator := ⟨⟨some Linker.library, "KM_LIBRARY", "partial_"⟩, 2, some 3⟩
    let lacking : Error := .symbolResolution "partial_f_dealloc"
      "./libkernels.so: undefined symbol: partial_f_dealloc"
    (bare.run FileTree.fileSystem outfitted).session.allocators 1 = some allocator ∧
    ((bare.run FileTree.fileSystem outfitted).session.world.allocate allocator 0 .float32
      .accelerator).1 = .error lacking ∧
    ((bare.run FileTree.fileSystem
      (outfitted ++ .act (.allocate 1 0 .float32 .accelerator) :: mended)).session.world.allocate
        allocator 0 .float32 .accelerator).1 = .error lacking := by
  intro allocator lacking
  have held : (bare.run FileTree.fileSystem outfitted).session.allocators 1 = some allocator := by
    decide +kernel
  have failed : ((bare.run FileTree.fileSystem outfitted).session.world.allocate allocator 0
      .float32 .accelerator).1 = .error lacking := by
    decide +kernel
  refine ⟨held, failed, ?_⟩
  exact (run_refuses_again Linker.platform_fixedLookUps Linker.platform_failsByLoading
    FileTree.fileSystem _ _ _ outfitted mended 1 allocator 0 .float32 .accelerator lacking held
    failed rfl).2

end Mending

end Process

end TypedMemory
