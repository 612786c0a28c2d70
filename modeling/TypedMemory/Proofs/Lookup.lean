import TypedMemory.Proofs.Dealing
import TypedMemory.Simulation.Machine

/-!
# Looking entry points up

What a library that is cached already comes to: it is handed out without any loader
being asked, and whether an entry point is reached is then settled by the look-up of
its name alone. If libraries answer a name always alike (`Platform.FixedLookUps`),
so do the look-ups of every later request.
-/

namespace TypedMemory

namespace Platform

variable (P : Platform)

/-- An opened library answers a name always alike, whatever happens around it. -/
def FixedLookUps : Prop :=
  ∀ (library : P.Library) (name : String) (state state' : P.State),
    P.lookUp library name state = P.lookUp library name state'

/-- A loader that does not open a library fails with an error of loading. -/
def FailsByLoading : Prop :=
  ∀ (loader : Nat) (path : Path) (state : P.State) (error : Error),
    (P.openLibrary loader path state).1 = .error error →
      ∃ place reason, error = .load place reason

end Platform

variable {P : Platform}

namespace LoadedLibrary

/-- A name that is missing from a library, or that stands for a null address. -/
def Lacks (loaded : LoadedLibrary P) (name : String) (state : P.State) : Prop :=
  P.lookUp loaded.library name state = .null ∨
    ∃ reason, P.lookUp loaded.library name state = .missing reason

/-- A name that a library lacks is not looked up successfully, and leaves no trace. -/
theorem resolve_of_lacks {loaded : LoadedLibrary P} {name : String} {outside : Outside P}
    (lacks : loaded.Lacks name outside.state) :
    ∃ error, loaded.resolve name outside = (.error error, outside) := by
  unfold resolve
  rcases lacks with null | ⟨reason, missing⟩
  · rw [null]
    exact ⟨_, rfl⟩
  · rw [missing]
    exact ⟨_, rfl⟩

/-- A name that a library does not lack is looked up, and remarked on. -/
theorem resolve_of_not_lacks {loaded : LoadedLibrary P} {name : String} {outside : Outside P}
    (there : ¬ loaded.Lacks name outside.state) :
    ∃ entry fields, loaded.resolve name outside =
      (.ok entry, outside.report .trace "resolved entry point" fields) := by
  unfold resolve
  cases found : P.lookUp loaded.library name outside.state with
  | missing reason => exact (there (.inr ⟨reason, found⟩)).elim
  | null => exact (there (.inl found)).elim
  | found routine => exact ⟨_, _, rfl⟩

end LoadedLibrary

namespace Cache

variable {cache : Cache P} {number : Nat} {route : Route} {outside : Outside P}

/-- A library that is cached is handed out, whatever path the request names. -/
theorem acquire_of_cached {loaded : LoadedLibrary P}
    (cached : cache.get? route.backend = some loaded) :
    cache.acquire number route.descriptor outside =
      (.ok loaded, cache, loaded.handOut route.path outside) := by
  simp only [acquire, look, Route.descriptor]
  rw [cached]

/-- On a route, only a loader keeps a library from being handed out. -/
theorem opening_of_acquire_error {error : Error}
    (refused : (cache.acquire number route.descriptor outside).1 = .error error) :
    (P.openLibrary number route.path outside.state).1 = .error error := by
  simp only [acquire, look, Route.descriptor] at refused
  cases cached : cache.get? route.backend with
  | some loaded =>
      rw [cached] at refused
      cases refused
  | none =>
      rw [cached] at refused
      rcases load_cases number cache route.backend route.path outside with
        ⟨loaded, found, _⟩ | ⟨_, failure, state, opening, equation⟩ |
          ⟨_, library, state, _, equation⟩
      · rw [cached] at found
        cases found
      · simp only [equation] at refused
        cases refused
        rw [opening]
      · simp only [equation] at refused
        cases refused

end Cache

namespace Simulation

namespace Linker

/-- A machine whose libraries are all opened by the linker. -/
def platform : Platform where
  State := Machine
  Library := Unit
  Routine := LinkedRoutine
  openLibrary _ path machine := (openAt path, machine)
  lookUp _ name _ := lookUp name
  callAlloc routine length machine := (address routine length.toUInt64, machine)
  callDealloc _ _ machine := machine
  hostAlloc := Machine.hostAlloc
  hostFree _ _ _ machine := machine

theorem platform_fixedLookUps : platform.FixedLookUps := fun _ _ _ _ => rfl

/-- A library that the linker does not open is an error of loading. -/
theorem platform_failsByLoading : platform.FailsByLoading := by
  intro loader path machine error refused
  change openAt path = .error error at refused
  unfold openAt at refused
  split at refused
  · cases refused
    exact ⟨_, _, rfl⟩
  · cases refused
  · split at refused
    · cases refused
    · cases refused
      exact ⟨_, _, rfl⟩

end Linker

end Simulation

end TypedMemory
