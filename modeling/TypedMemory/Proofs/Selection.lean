import TypedMemory.Proofs.Furnishing

/-!
# Which provider serves a backend

The settings and the environment locate the accelerator's library, or they do not, and
what the registry answers follows from this and from the stem alone
(`Registry.resolve_ok_iff`). An allocator asks its registry twice: when it is made, where
an error only means that it has no accelerator, and whenever a provider is selected. Both
reach the same verdict, whatever happens to the environment and to the settings in
between: the selection refuses a backend exactly when the registry does, with its error,
and otherwise selects a provider of that backend, by the way that the registry knows
(`Process.run_selects_as_registered`).
-/

namespace TypedMemory

variable {P : Platform}

namespace AcceleratorSettings

variable {settings : AcceleratorSettings} {environment : Environment} {path : Path}

/-- Where settings and environment locate the accelerator's library. A path or a value
without any bytes locates nothing. -/
inductive Locates (settings : AcceleratorSettings) (environment : Environment) : Path → Prop
  /-- The settings have a path. -/
  | explicit {path : Path} (set : settings.libraryPath = some path)
      (nonempty : path.bytes ≠ []) : Locates settings environment path
  /-- The settings have none, and the variable that they name has a value. -/
  | inherited {value : Bytes}
      (unset : ∀ path, settings.libraryPath = some path → path.bytes = [])
      (set : environment.get? settings.libraryEnv = some value) (nonempty : value ≠ []) :
      Locates settings environment ⟨value⟩

/-- A location is found exactly where the settings or the environment locate the library. -/
theorem location?_eq_some_iff :
    settings.location? environment = some path ↔ settings.Locates environment path := by
  unfold location?
  constructor
  · intro located
    split at located
    · next chosen =>
        cases located
        obtain ⟨set, nonempty⟩ := Option.filter_eq_some_iff.mp chosen
        exact .explicit set (by simpa [Path.isEmpty] using nonempty)
    · next unset =>
        obtain ⟨value, kept, rfl⟩ := Option.map_eq_some_iff.mp located
        obtain ⟨set, nonempty⟩ := Option.filter_eq_some_iff.mp kept
        refine .inherited ?_ set (by simpa using nonempty)
        intro path set
        simpa [Path.isEmpty] using Option.filter_eq_none_iff.mp unset path set
  · intro locates
    cases locates with
    | explicit set nonempty =>
        have chosen : settings.libraryPath.filter (!·.isEmpty) = some path :=
          Option.filter_eq_some_iff.mpr ⟨set, by simp [Path.isEmpty, nonempty]⟩
        rw [chosen]
    | inherited unset set nonempty =>
        have none : settings.libraryPath.filter (!·.isEmpty) = none := by
          apply Option.filter_eq_none_iff.mpr
          intro path set
          simp [Path.isEmpty, unset path set]
        simp [none, set, nonempty]

end AcceleratorSettings

namespace Registry

variable {settings : AcceleratorSettings} {environment : Environment} {registry : Registry}
  {descriptor : Descriptor}

/-- The accelerator is resolved exactly if the library is located and the stem is not empty. -/
theorem resolve_accelerator_ok_iff :
    registry.resolve .accelerator = .ok descriptor ↔
      ∃ path, registry.library = some path ∧ registry.stem ≠ "" ∧
        descriptor = ⟨.accelerator, .library path registry.stem⟩ := by
  unfold resolve
  dsimp only
  split
  · next unlocated => simp [unlocated]
  · next path located =>
      rw [located]
      by_cases empty : registry.stem = ""
      · simp [empty]
      · rw [if_neg (mt String.isEmpty_iff.mp empty)]
        constructor
        · rintro ⟨⟩
          exact ⟨path, rfl, empty, rfl⟩
        · rintro ⟨_, ⟨⟩, _, rfl⟩
          rfl

/-- The accelerator is reached through the library that is located, under the stem of the
settings, if there are such a library and such a stem. -/
theorem resolve_ok_iff :
    (ofSettings settings environment).resolve .accelerator = .ok descriptor ↔
      ∃ path, settings.Locates environment path ∧ settings.symbolPrefix ≠ "" ∧
        descriptor = ⟨.accelerator, .library path settings.symbolPrefix⟩ := by
  rw [resolve_accelerator_ok_iff]
  simp only [← AcceleratorSettings.location?_eq_some_iff]
  rfl

end Registry

namespace Misconfiguration

/-- The two errors of a registry are told apart by their texts. -/
theorem noLibraryLocation_ne_notConfigured (name : String) (backend : Backend) :
    (noLibraryLocation name).error ≠ (notConfigured backend.name).error := by
  intro same
  have texts := Error.configuration.inj same
  -- Place 20 is the first behind the words that both texts have about the accelerator.
  have letters := congrArg (fun text : String => text.toList[20]?) texts
  unfold describe at letters
  dsimp only at letters
  rw [String.toList_append, List.getElem?_append_left (by decide)] at letters
  revert letters
  cases backend <;> decide

end Misconfiguration

namespace World

variable {world : World P} {allocator : Allocator} {registry : Registry} {cache : Nat}
  {backend : Backend} {error : Error}

/-- An allocator is made with an accelerator if its registry knows how to reach one. -/
theorem addAllocator_accelerator (world : World P) (registry : Registry) (cache : Nat) :
    (world.addAllocator registry cache).1.accelerator.isSome = true ↔
      ∃ descriptor, registry.resolve .accelerator = .ok descriptor := by
  rcases Session.addAllocator_cases world registry cache with
    ⟨error, refused, equation⟩ | ⟨path, resolved, equation⟩
  · rw [equation, refused]
    exact ⟨nofun, nofun⟩
  · rw [equation, resolved]
    exact ⟨fun _ => ⟨_, rfl⟩, fun _ => rfl⟩

/-- A backend has no provider exactly if the registry refuses it, and for that reason. -/
theorem Furnishes.provider_error_iff (furnishes : world.Furnishes allocator registry cache) :
    allocator.provider backend = .error error ↔ registry.resolve backend = .error error := by
  cases backend with
  | host => exact ⟨nofun, nofun⟩
  | accelerator =>
      rcases registry.resolve_accelerator_cases with ⟨message, refused⟩ | ⟨path, resolved⟩
      · rw [furnishes.provider_unresolved refused, refused, Except.error.injEq, Except.error.injEq]
      · obtain ⟨number, selected, _⟩ := furnishes.provider_accelerator resolved
        rw [selected, resolved]
        exact ⟨nofun, nofun⟩

/-- The provider of the accelerator goes the way that the registry knows. -/
theorem Furnishes.provider_route (furnishes : world.Furnishes allocator registry cache)
    {number : Nat} (selected : allocator.provider .accelerator = .ok number) :
    ∃ route, (world.providers number).source = .library route cache ∧
      registry.resolve .accelerator = .ok ⟨.accelerator, .library route.path route.stem⟩ := by
  rcases registry.resolve_accelerator_cases with ⟨message, refused⟩ | ⟨path, resolved⟩
  · cases (furnishes.provider_unresolved refused).symm.trans selected
  · obtain ⟨other, found, source⟩ := furnishes.provider_accelerator resolved
    cases found.symm.trans selected
    exact ⟨registry.route path, source, resolved⟩

/-- An allocator never lacks a provider that its registry promises. -/
theorem Furnishes.provider_configured (furnishes : world.Furnishes allocator registry cache)
    (backend other : Backend) :
    allocator.provider backend ≠ .error (Misconfiguration.notConfigured other.name).error := by
  intro lacking
  have refused := furnishes.provider_error_iff.mp lacking
  rcases Registry.resolve_error_cases refused with unlocated | unnamed
  · exact Misconfiguration.noLibraryLocation_ne_notConfigured _ _ unlocated.symm
  · revert unnamed
    cases other <;> decide

end World

namespace Process

variable {σ : Type}

/-- To its session, all that happens around a step is some steps before it and some
behind it. -/
theorem run_session_around (files : FileSystem σ) (process : Process P σ)
    (earlier later : List (Happening P)) (step : Step P) :
    ∃ before behind,
      (process.run files earlier).session = process.session.run before ∧
      (process.run files (earlier ++ .act step :: later)).session =
        process.session.run (before ++ step :: behind) := by
  obtain ⟨before, first⟩ := run_session files process earlier
  obtain ⟨behind, second⟩ := run_session files
    ((process.run files earlier).happen files (.act step)) later
  refine ⟨before, behind, first, ?_⟩
  calc (process.run files (earlier ++ .act step :: later)).session
      = (((process.run files earlier).happen files (.act step)).run files later).session :=
        congrArg Process.session List.foldl_append
    _ = ((process.run files earlier).session.step step).run behind := second
    _ = ((process.session.run before).step step).run behind := by rw [first]
    _ = process.session.run (before ++ step :: behind) :=
        (process.session.run_append before (step :: behind)).symm

/-- **Selection as registered.** However settings and environment are at the time, the
registry made from them resolves the accelerator exactly if they locate a library and
there is a stem, to that library and that stem; and a text, as the backend that it names.
An allocator made from that registry keeps to it through everything that happens later: it
refuses a backend exactly if the registry does, with the same error, and so never for want
of a provider; it selects a provider of the backend that was asked for, which for the
accelerator goes by the path and the stem that the registry resolves; and it has counters
of an accelerator exactly if the registry resolves one. -/
theorem run_selects_as_registered (files : FileSystem σ) (state : P.State)
    (environment : Environment) (archive : Archive σ) (earlier later : List (Happening P))
    (settings : AcceleratorSettings) (cache : Nat) :
    let before := (start state environment archive).run files earlier
    let registry := Registry.ofSettings settings before.environment
    let after := (start state environment archive).run files
      (earlier ++ .act (.make registry cache) :: later)
    (∀ descriptor, registry.resolve .accelerator = .ok descriptor ↔
      ∃ path, settings.Locates before.environment path ∧ settings.symbolPrefix ≠ "" ∧
        descriptor = ⟨.accelerator, .library path settings.symbolPrefix⟩) ∧
    (∀ text backend, Backend.parse text = .ok backend →
      registry.resolveName text = registry.resolve backend) ∧
    (∀ text error, Backend.parse text = .error error → registry.resolveName text = .error error) ∧
    ∀ allocator, after.session.allocators before.session.nextAllocator = some allocator →
      allocator.registry = registry ∧
      (∀ backend error,
        allocator.provider backend = .error error ↔ registry.resolve backend = .error error) ∧
      (∀ backend other : Backend,
        allocator.provider backend ≠ .error (Misconfiguration.notConfigured other.name).error) ∧
      (∀ backend number, allocator.provider backend = .ok number →
        (after.session.world.providers number).backend = backend) ∧
      (∀ number, allocator.provider .accelerator = .ok number →
        ∃ route, (after.session.world.providers number).source = .library route cache ∧
          registry.resolve .accelerator =
            .ok ⟨.accelerator, .library route.path route.stem⟩) ∧
      ((allocator.acceleratorStats? after.session.world).isSome = true ↔
        ∃ descriptor, registry.resolve .accelerator = .ok descriptor) := by
  intro before registry after
  refine ⟨fun _ => Registry.resolve_ok_iff, ?_, ?_, ?_⟩
  · intro text backend named
    unfold Registry.resolveName
    rw [named]
    rfl
  · intro text error unnamed
    unfold Registry.resolveName
    rw [unnamed]
    rfl
  · intro allocator held
    obtain ⟨steps, more, first, whole⟩ :=
      run_session_around files (start state environment archive) earlier later
        (.make registry cache)
    change after.session = (Session.start state).run _ at whole
    rw [first, whole] at held
    have furnishes := Session.furnished_run held
    rw [whole]
    refine ⟨furnishes.registered, fun _ _ => furnishes.provider_error_iff,
      furnishes.provider_configured, fun _ _ => furnishes.provider_backend,
      fun _ => furnishes.provider_route, ?_⟩
    unfold Allocator.acceleratorStats?
    rw [Option.isSome_map, Session.made_run held]
    exact World.addAllocator_accelerator ..

section Deferring

open Simulation

/-- Settings that leave the location to the environment, by a path without any bytes. -/
def deferring : AcceleratorSettings where
  libraryPath := some ⟨[]⟩
  libraryEnv := "KM_LIBRARY"
  symbolPrefix := "partial_"

/-- An allocator is made before there is a library, and then the variable is set. -/
def located : List (Happening Linker.platform) :=
  [.equip 0, .setVariable "KM_LIBRARY" (Utf8.encode "./libkernels.so")]

/-- The variable goes, the settings change, and both allocators are asked for blocks. -/
def relocated : List (Happening Linker.platform) :=
  [.unsetVariable "KM_LIBRARY",
    .manage (.update fun settings => settings.withLibraryPath (.ofText "./bad.so")),
    .act (.allocate 1 3 .float32 .accelerator), .act (.allocate 0 3 .float32 .accelerator)]

/-- The allocator was made while the environment located the library, and serves from there when
the environment no longer does. -/
theorem deferring_selects_as_registered :
    let before := bare.run FileTree.fileSystem located
    let registry := Registry.ofSettings deferring before.environment
    let after := bare.run FileTree.fileSystem
      (located ++ .act (.make registry 0) :: relocated)
    let allocator : Allocator := ⟨⟨some Linker.library, "KM_LIBRARY", "partial_"⟩, 1, some 2⟩
    deferring.Locates before.environment Linker.library ∧
    after.session.allocators before.session.nextAllocator = some allocator ∧
    allocator.provider .accelerator = .ok 2 ∧
    (after.session.world.providers 2).backend = .accelerator ∧
    (∃ route, (after.session.world.providers 2).source = .library route 0 ∧
      registry.resolve .accelerator = .ok ⟨.accelerator, .library route.path route.stem⟩) ∧
    (allocator.acceleratorStats? after.session.world).isSome = true := by
  intro before registry after allocator
  have located' : deferring.Locates before.environment Linker.library := by
    refine .inherited ?_ (by decide +kernel) (by decide)
    rintro _ ⟨⟩
    rfl
  have held : after.session.allocators before.session.nextAllocator = some allocator := by
    decide +kernel
  have selected : allocator.provider .accelerator = .ok 2 := by decide +kernel
  obtain ⟨resolves, _, _, selects⟩ := run_selects_as_registered FileTree.fileSystem
    ({} : Machine) {} ⟨{}, {}⟩ located relocated deferring 0
  obtain ⟨_, _, _, placed, routed, counted⟩ := selects allocator held
  exact ⟨located', held, selected, placed _ _ selected, routed _ selected,
    counted.mpr ⟨_, (resolves _).mpr ⟨_, located', by decide, rfl⟩⟩⟩

end Deferring

end Process

end TypedMemory
