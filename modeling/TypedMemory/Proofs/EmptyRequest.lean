import TypedMemory.Proofs.Verdict

/-!
# Requests for nothing

A request for no elements obtains nothing, but makes sure that blocks could be obtained
and released. It looks two entry points up, where a request for some elements looks up
the one that obtains. So whatever is wrong with the configuration, the library or the
entry point that obtains, both are told of it in the same way, and only a request for
nothing is told that its library lacks the entry point that releases
(`Session.run_asks_for_nothing`). A request for some elements is served from such a
library, and the block leaks in the end.
-/

namespace TypedMemory

variable {P : Platform}

/-- Whether an error is about the way to a backend: how it is configured, the library that
it is reached through, or an entry point of that library. -/
def Error.isOfAccess : Error → Bool
  | .configuration _ | .load _ _ | .symbolResolution _ _ => true
  | .allocation _ _ | .invalidInput _ | .io _ => false

/-- A request gets one library, in one state of the platform. -/
theorem Cache.Supplies.unique {number : Nat} {cache : Cache P} {backend : Backend} {path : Path}
    {state later later' : P.State} {loaded loaded' : LoadedLibrary P}
    (supplied : cache.Supplies number backend path state loaded later)
    (supplied' : cache.Supplies number backend path state loaded' later') :
    loaded = loaded' ∧ later = later' := by
  cases supplied with
  | cached held =>
      cases supplied' with
      | cached held' =>
          cases held.symm.trans held'
          exact ⟨rfl, rfl⟩
      | opened missed _ => cases held.symm.trans missed
  | opened missed opening =>
      cases supplied' with
      | cached held => cases missed.symm.trans held
      | opened _ opening' =>
          cases opening.symm.trans opening'
          exact ⟨rfl, rfl⟩

namespace World

variable {world : World P} {registry : Registry} {cache : Nat} {length : Int64}
  {type : ElementType} {backend : Backend} {error : Error}

/-- Blocks of a type could be obtained, but not released: the library has the entry point
for the one and lacks the entry point for the other. -/
inductive Strands (world : World P) (registry : Registry) (cache : Nat) (type : ElementType) :
    Backend → Error → Prop
  | lacking {path : Path} {loaded : LoadedLibrary P} {state : P.State} {routine : P.Routine}
      {reason : String}
      (resolved : registry.resolve .accelerator =
        .ok ⟨.accelerator, .library path registry.stem⟩)
      (supplied : (world.caches cache).Supplies cache .accelerator path world.outside.state
        loaded state)
      (found : P.lookUp loaded.library (symbolName registry.stem type .alloc) state =
        .found routine)
      (denies : loaded.Denies (symbolName registry.stem type .dealloc) state reason) :
      Strands world registry cache type .accelerator
        (.symbolResolution (symbolName registry.stem type .dealloc) reason)

/-- What keeps some elements from being obtained, for all that is wrong on the way, keeps
none from being obtained. -/
theorem Refuses.empty (refuses : world.Refuses registry cache length type backend error)
    (positive : 0 < length.toInt) (access : error.isOfAccess = true) :
    world.Refuses registry cache 0 type backend error := by
  have signed : (0 : Int) ≤ (0 : Int64).toInt := by decide
  cases refuses with
  | negative below => exact absurd positive (Int.not_lt.mpr (Int.le_of_lt below))
  | unresolved _ unknown => exact .unresolved signed unknown
  | oversized | spent | barren => cases access
  | unopened _ resolved missed failed => exact .unopened signed resolved missed failed
  | lacking _ resolved supplied denies => exact .lacking signed resolved supplied denies
  | stranding zero => exact absurd zero (Int.ne_of_gt positive)

/-- What keeps none from being obtained keeps some from being obtained, but for a missing
entry point to release them. -/
theorem Refuses.of_empty (refuses : world.Refuses registry cache 0 type backend error)
    (signed : 0 ≤ length.toInt) :
    world.Refuses registry cache length type backend error ∨
      world.Strands registry cache type backend error := by
  have zero : (0 : Int64).toInt = 0 := by decide
  cases refuses with
  | negative below => exact absurd zero (Int.ne_of_lt below)
  | unresolved _ unknown => exact .inl (.unresolved signed unknown)
  | oversized positive | spent positive | barren positive =>
      exact absurd zero (Int.ne_of_gt positive)
  | unopened _ resolved missed failed => exact .inl (.unopened signed resolved missed failed)
  | lacking _ resolved supplied denies => exact .inl (.lacking signed resolved supplied denies)
  | stranding _ resolved supplied found denies =>
      exact .inr (.lacking resolved supplied found denies)

/-- What strands a request for no elements makes it fail. -/
theorem Strands.refuses (strands : world.Strands registry cache type backend error) :
    world.Refuses registry cache 0 type backend error := by
  cases strands with
  | lacking resolved supplied found denies =>
      exact .stranding (by decide) resolved supplied found denies

/-- Where blocks could be obtained, a request for some elements can only be told that there
is no memory. -/
theorem Strands.isOfAccess (strands : world.Strands registry cache type backend error)
    (positive : 0 < length.toInt) {other : Error}
    (refuses : world.Refuses registry cache length type backend other) :
    other.isOfAccess = false := by
  cases strands with
  | lacking resolved supplied found _ =>
      cases refuses with
      | negative below => exact absurd positive (Int.not_lt.mpr (Int.le_of_lt below))
      | unresolved _ unknown => cases resolved.symm.trans unknown
      | unopened _ resolved' missed failed =>
          cases resolved.symm.trans resolved'
          cases supplied with
          | cached held => cases held.symm.trans missed
          | opened _ opening =>
              rw [opening] at failed
              cases failed
      | lacking _ resolved' supplied' denies =>
          cases resolved.symm.trans resolved'
          obtain ⟨rfl, rfl⟩ := supplied.unique supplied'
          cases denies with
          | missing missed => cases found.symm.trans missed
          | null stands => cases found.symm.trans stands
      | stranding zero => exact absurd zero (Int.ne_of_gt positive)
      | barren => rfl

end World

namespace Session

/-- **Requests for nothing.** Whatever was done before, take a request for some elements and
the same request for none. Each error of the configuration, of the library or of an entry
point that the first is refused with, the second is refused with. The second is refused with
one more such error, and then the first with none: that the library lacks the entry point
that releases what the other entry point obtains. -/
theorem run_asks_for_nothing (state : P.State) (earlier later : List (Step P))
    (registry : Registry) (cache : Nat) (allocator : Allocator)
    (held : ((start state).run (earlier ++ .make registry cache :: later)).allocators
      ((start state).run earlier).nextAllocator = some allocator)
    (length : Int64) (positive : 0 < length) (type : ElementType) (backend : Backend) :
    let world := ((start state).run (earlier ++ .make registry cache :: later)).world
    let answer (length : Int64) := (world.allocate allocator length type backend).1
    (∀ error, error.isOfAccess →
      (answer 0 = .error error ↔
        answer length = .error error ∨ world.Strands registry cache type backend error)) ∧
    (∀ error, world.Strands registry cache type backend error →
      ∀ other, other.isOfAccess → answer length ≠ .error other) := by
  intro world answer
  have furnishes := furnished_run held
  have positive : 0 < length.toInt := by
    rw [Int64.lt_iff_toInt_lt, Int64.toInt_zero] at positive
    exact positive
  have decided (length : Int64) (error : Error) : answer length = .error error ↔
      world.Refuses registry cache length type backend error :=
    furnishes.allocate_error_iff
  refine ⟨?_, ?_⟩
  · intro error access
    rw [decided, decided]
    constructor
    · intro refuses
      exact refuses.of_empty (Int.le_of_lt positive)
    · rintro (refuses | strands)
      · exact refuses.empty positive access
      · exact strands.refuses
  · intro error strands other access failed
    have refuses := (decided length other).mp failed
    cases access.symm.trans (strands.isOfAccess positive refuses)

open Simulation

/-- A library that obtains blocks of signed bytes and does not release them. -/
def oneWay : Machine :=
  { loaders := [.device]
    device := (Device.exportAll {} "awkward_cuda_ptr").forget "awkward_cuda_ptri8_dealloc" }

def oneWayRegistry : Registry :=
  ⟨some (.ofText "/fake/kernels/libawkward-cuda-kernels.so"), "", "awkward_cuda_ptr"⟩

def oneWayFault : Error :=
  .symbolResolution "awkward_cuda_ptri8_dealloc" "undefined symbol: awkward_cuda_ptri8_dealloc"

/-- The library strands a request for no elements, while one for three does not fail for want of
the library or its entry points. -/
theorem oneWay_asks_for_nothing :
    let session := (start (P := Machine.platform) oneWay).run ([] ++ .make oneWayRegistry 0 :: [])
    let allocator : Allocator := ⟨oneWayRegistry, 0, some 1⟩
    session.allocators 0 = some allocator ∧
    session.world.Strands oneWayRegistry 0 .int8 .accelerator oneWayFault ∧
    ∀ other, other.isOfAccess →
      (session.world.allocate allocator 3 .int8 .accelerator).1 ≠ .error other := by
  intro session allocator
  have held : session.allocators 0 = some allocator := by decide +kernel
  have refused : (session.world.allocate allocator 0 .int8 .accelerator).1 =
      .error oneWayFault := by
    decide +kernel
  have served : (session.world.allocate allocator 3 .int8 .accelerator).1 = .ok 0 := by
    decide +kernel
  obtain ⟨told, only⟩ := run_asks_for_nothing (P := Machine.platform) oneWay [] [] oneWayRegistry 0
    allocator held 3 (by decide) .int8 .accelerator
  have strands : session.world.Strands oneWayRegistry 0 .int8 .accelerator oneWayFault := by
    rcases (told oneWayFault rfl).mp refused with refused' | strands
    · cases served.symm.trans refused'
    · exact strands
  exact ⟨held, strands, only oneWayFault strands⟩

/-- It is not so that requests for nothing and for something report the same errors. -/
theorem empty_requests_report_more :
    ¬ ∀ (state : Machine) (steps : List (Step Machine.platform)) (number : Nat)
        (allocator : Allocator) (length : Int64) (type : ElementType) (backend : Backend)
        (error : Error),
      let session := (start (P := Machine.platform) state).run steps
      session.allocators number = some allocator → 0 < length → error.isOfAccess →
        ((session.world.allocate allocator 0 type backend).1 = .error error ↔
          (session.world.allocate allocator length type backend).1 = .error error) := by
  intro alike
  have refused := (alike oneWay [.make oneWayRegistry 0] 0 ⟨oneWayRegistry, 0, some 1⟩ 3 .int8
    .accelerator oneWayFault (by decide +kernel) (by decide) rfl).mp (by decide +kernel)
  have served : (((start (P := Machine.platform) oneWay).run
      [.make oneWayRegistry 0]).world.allocate ⟨oneWayRegistry, 0, some 1⟩ 3 .int8
        .accelerator).1 = .ok 0 := by
    decide +kernel
  cases served.symm.trans refused

end Session

end TypedMemory
