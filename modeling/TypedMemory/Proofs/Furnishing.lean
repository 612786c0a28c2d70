import TypedMemory.Proofs.Permanence

/-!
# What allocators are furnished with

An allocator is made from a registry and the number of a cache. As long as it is
there, it serves requests for the host from host memory, and requests for the
accelerator as its registry says: it refuses them with the error of the registry, or
takes them to the library that the registry knows, from that cache
(`Session.furnished_run`).
-/

namespace TypedMemory

variable {P : Platform}

/-- A registry refuses for one of two reasons. -/
theorem Registry.resolve_error_cases {registry : Registry} {backend : Backend} {error : Error}
    (refused : registry.resolve backend = .error error) :
    error = (Misconfiguration.noLibraryLocation registry.libraryEnv).error ∨
      error = Misconfiguration.emptySymbolPrefix.error := by
  unfold resolve at refused
  split at refused
  · cases refused
  · split at refused
    · cases refused
      exact .inl rfl
    · split at refused
      · cases refused
        exact .inr rfl
      · cases refused

/-- The registry resolves the accelerator to the library that it knows, or refuses with
an error of configuration. -/
theorem Registry.resolve_accelerator_cases (registry : Registry) :
    (∃ message, registry.resolve .accelerator = .error (.configuration message)) ∨
    ∃ path, registry.resolve .accelerator =
      .ok ⟨.accelerator, .library path registry.stem⟩ := by
  cases resolved : registry.resolve .accelerator with
  | ok descriptor =>
      obtain ⟨path, _, rfl⟩ := resolve_accelerator resolved
      exact .inr ⟨path, rfl⟩
  | error error =>
      left
      rcases resolve_error_cases resolved with rfl | rfl
      · exact ⟨_, rfl⟩
      · exact ⟨_, rfl⟩

/-- The route to the accelerator through a library that the registry knows. -/
abbrev Registry.route (registry : Registry) (path : Path) : Route :=
  ⟨.accelerator, path, registry.stem⟩

namespace World

/-- The providers of an allocator that was made from a registry, with libraries from the
cache of a number. -/
structure Furnishes (world : World P) (allocator : Allocator) (registry : Registry)
    (cache : Nat) : Prop where
  registered : allocator.registry = registry
  known : Session.Known world allocator
  host : (world.providers allocator.host).source = .host
  accelerator : ∀ path,
    registry.resolve .accelerator = .ok ⟨.accelerator, .library path registry.stem⟩ →
      ∃ number, allocator.accelerator = some number ∧
        (world.providers number).source = .library (registry.route path) cache

/-- A new allocator is furnished as its registry says. -/
theorem addAllocator_furnishes (world : World P) (registry : Registry) (cache : Nat) :
    (world.addAllocator registry cache).2.Furnishes (world.addAllocator registry cache).1
      registry cache := by
  have known : Session.Known (world.addAllocator registry cache).2
      (world.addAllocator registry cache).1 :=
    (@Session.addAllocator_follows _ (fun _ => True) world registry cache trivial).2
  rcases Session.addAllocator_cases world registry cache with
    ⟨_, resolved, equation⟩ | ⟨path, resolved, equation⟩ <;>
    rw [equation] at known ⊢
  · refine ⟨rfl, known, congrArg Provider.source (replace_same ..), ?_⟩
    intro other resolved'
    cases resolved.symm.trans resolved'
  · refine ⟨rfl, known, ?_, ?_⟩
    · refine congrArg Provider.source ((replace_other _ _ ?_).trans (replace_same ..))
      exact Nat.ne_of_lt (Nat.lt_succ_self _)
    · intro other resolved'
      cases resolved.symm.trans resolved'
      exact ⟨_, rfl, congrArg Provider.source (replace_same ..)⟩

variable {world before after : World P} {allocator : Allocator} {registry : Registry}
  {cache : Nat}

/-- An allocator stays furnished in every later world. -/
theorem Furnishes.extends (furnishes : before.Furnishes allocator registry cache)
    (later : before.Extends after) : after.Furnishes allocator registry cache where
  registered := furnishes.registered
  known := furnishes.known.mono later.nextProvider
  host := (later.source _ furnishes.known.host).trans furnishes.host
  accelerator path resolved := by
    obtain ⟨number, held, source⟩ := furnishes.accelerator path resolved
    exact ⟨number, held, (later.source _ (furnishes.known.accelerator _ held)).trans source⟩

/-- If the registry does not resolve the accelerator, the allocator answers with the same error.
-/
theorem Furnishes.provider_unresolved (furnishes : world.Furnishes allocator registry cache)
    {error : Error} (unresolved : registry.resolve .accelerator = .error error) :
    allocator.provider .accelerator = .error error := by
  unfold Allocator.provider
  rw [furnishes.registered, unresolved]

/-- If it does, the allocator has a provider that takes the library from where the registry
says. -/
theorem Furnishes.provider_accelerator (furnishes : world.Furnishes allocator registry cache)
    {path : Path}
    (resolved : registry.resolve .accelerator = .ok ⟨.accelerator, .library path registry.stem⟩) :
    ∃ number, allocator.provider .accelerator = .ok number ∧
      (world.providers number).source = .library (registry.route path) cache := by
  obtain ⟨number, held, source⟩ := furnishes.accelerator path resolved
  refine ⟨number, ?_, source⟩
  unfold Allocator.provider
  rw [furnishes.registered, resolved, held]

/-- The provider that serves a backend is one of that backend. -/
theorem Furnishes.provider_backend (furnishes : world.Furnishes allocator registry cache)
    {backend : Backend} {number : Nat} (served : allocator.provider backend = .ok number) :
    (world.providers number).backend = backend := by
  unfold Provider.backend
  cases backend with
  | host =>
      cases served
      rw [furnishes.host]
  | accelerator =>
      rcases registry.resolve_accelerator_cases with ⟨message, unresolved⟩ | ⟨path, resolved⟩
      · cases (furnishes.provider_unresolved unresolved).symm.trans served
      · obtain ⟨other, found, source⟩ := furnishes.provider_accelerator resolved
        cases found.symm.trans served
        rw [source]

end World

namespace Session

variable {state : P.State} {earlier later : List (Step P)} {registry : Registry} {cache : Nat}
  {allocator : Allocator}

/-- Whatever else was done, an allocator that is still there is the one that was made. -/
theorem made_run
    (held : ((start state).run (earlier ++ .make registry cache :: later)).allocators
      ((start state).run earlier).nextAllocator = some allocator) :
    allocator = (((start state).run earlier).world.addAllocator registry cache).1 := by
  rw [run_append] at held
  refine allocators_run (Nat.lt_succ_self _) ?_ later held
  intro other there
  cases (replace_same ..).symm.trans there
  rfl

/-- It is furnished as it was made. -/
theorem furnished_run
    (held : ((start state).run (earlier ++ .make registry cache :: later)).allocators
      ((start state).run earlier).nextAllocator = some allocator) :
    ((start state).run (earlier ++ .make registry cache :: later)).world.Furnishes allocator
      registry cache := by
  let session := (start state).run earlier
  let made := session.step (.make registry cache)
  have reached : (start state).run (earlier ++ .make registry cache :: later) = made.run later :=
    run_append ..
  have sound : made.Sound fun _ => True :=
    ((start_sound state).run earlier fun step _ => step.within_any).step trivial
  rw [made_run held, reached]
  exact (session.world.addAllocator_furnishes registry cache).extends (sound.follows later).extends

end Session

end TypedMemory
