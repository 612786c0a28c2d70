import TypedMemory.Proofs.Conservation

/-!
# Whose entry points are called

The name of an entry point tells the stem, the element type and the operation that it
was made from. So two providers with different stems never reach the same entry point,
and none is reached both to obtain and to release. This also holds for all calls that
were ever made: each was made under the name that the stem of one of the providers has
for a type and for what was asked, and under no other stem, type or operation is this a
name (`Session.run_calls_own_names`).
-/

namespace TypedMemory

variable {P : Platform}

/-- What is reached has the name that was looked for. -/
theorem Route.name_of_reach {route : Route} {type : ElementType} {operation : Operation}
    {number : Nat} {cache : Cache P} {outside : Outside P} {entry : EntryPoint P}
    (reached : (route.reach type operation number cache outside).1 = .ok entry) :
    entry.name = symbolName route.stem type operation := by
  unfold reach at reached
  split at reached
  · cases reached
  · next loaded _ middle _ =>
      dsimp only [LoadedLibrary.resolve] at reached
      split at reached
      · cases reached
      · cases reached
      · cases reached
        rfl

namespace World

variable {caches : Nat → Prop}

/-- A call under this name is one that some provider makes: the name is what its stem
gives for a type and for what is asked. -/
def Origin (world : World P) (symbol : String) (call : Call) : Prop :=
  ∃ number route cache type, (world.providers number).source = .library route cache ∧
    symbol = symbolName route.stem type call.operation

/-- Only providers that were added go through a library, and all calls have an origin. -/
structure Attributed (world : World P) : Prop where
  vacant : ∀ number, world.nextProvider ≤ number → (world.providers number).source = .host
  called : ∀ loaded symbol call, .called loaded symbol call ∈ world.outside.dealings →
    world.Origin symbol call

/-- In a fresh world nothing was called. -/
theorem attributed_fresh (state : P.State) : (fresh state : World P).Attributed where
  vacant _ _ := rfl
  called := nofun

/-- A provider that is added takes nobody's place. -/
theorem Attributed.provided {world : World P} (attributed : world.Attributed) (source : Source) :
    (world.addProvider source).2.Attributed where
  vacant number beyond := by
    have other : number ≠ world.nextProvider := Nat.ne_of_gt beyond
    change (replace world.providers world.nextProvider _ number).source = _
    rw [replace_other _ _ other]
    exact attributed.vacant number (Nat.le_of_succ_le beyond)
  called loaded symbol call called := by
    obtain ⟨number, route, cache, type, held, named⟩ := attributed.called loaded symbol call called
    have other : number ≠ world.nextProvider := by
      rintro rfl
      cases held.symm.trans (attributed.vacant _ (Nat.le_refl _))
    refine ⟨number, route, cache, type, ?_, named⟩
    change (replace world.providers world.nextProvider _ number).source = _
    rw [replace_other _ _ other]
    exact held

/-- An effect that keeps sources makes only calls that have an origin. -/
theorem Effect.keepsAttributed {before after : World P} (effect : Effect caches before after)
    (attributed : before.Attributed) (steady : before.Steady after) : after.Attributed where
  vacant number beyond := by
    rw [steady.source]
    exact attributed.vacant number (steady.nextProvider ▸ beyond)
  called loaded symbol call called := by
    rcases effect.offered called with older | ⟨number, type, route, cache, offers⟩
    · obtain ⟨number, route, cache, type, held, named⟩ :=
        attributed.called loaded symbol call older
      exact ⟨number, route, cache, type, (steady.source number).trans held, named⟩
    · exact ⟨number, route, cache, type, offers.source, offers.symbol_eq⟩

/-- Whatever is done, every call belongs to a provider that asks under the name that was called.
-/
theorem Effect.attributed {before after : World P} (effect : Effect caches before after)
    (attributed : before.Attributed) : after.Attributed := by
  have keeps := effect.keepsAttributed attributed
  cases effect with
  | provided source _ => exact attributed.provided source
  | idle steady | granted _ _ steady | returned _ _ steady => exact keeps steady

/-- In every reachable world every call belongs to such a provider. -/
theorem Reachable.attributed {world : World P} (reachable : world.Reachable caches) :
    world.Attributed := by
  induction reachable with
  | fresh state => exact attributed_fresh state
  | move earlier moved ih => exact (moved.effect earlier.owned).attributed ih

end World

namespace Session

/-- **Names tell entry points apart.** Equal names have equal stems, types and operations.
So entry points of one name are reached by providers of one stem, for one type and one
operation; and after any session, every call was made under the name that the stem of a
provider has for a type and for what was asked of the entry point, which is its name for
no other stem, type or operation. -/
theorem run_calls_own_names (state : P.State) (steps : List (Step P)) :
    let world := ((start state).run steps).world
    (∀ stem stem' type type' operation operation',
      symbolName stem type operation = symbolName stem' type' operation' →
        stem = stem' ∧ type = type' ∧ operation = operation') ∧
    (∀ (route route' : Route) type type' operation operation' number number' cache cache'
        (outside outside' : Outside P) entry entry',
      (route.reach type operation number cache outside).1 = .ok entry →
      (route'.reach type' operation' number' cache' outside').1 = .ok entry' →
      entry.name = entry'.name →
        route.stem = route'.stem ∧ type = type' ∧ operation = operation') ∧
    (∀ loaded symbol call, .called loaded symbol call ∈ world.outside.journal →
      ∃ number route cache type, (world.providers number).source = .library route cache ∧
        symbol = symbolName route.stem type call.operation ∧
        ∀ stem' type' operation', symbol = symbolName stem' type' operation' →
          stem' = route.stem ∧ type' = type ∧ operation' = call.operation) := by
  intro world
  refine ⟨?_, ?_, ?_⟩
  · intro stem stem' type type' operation operation' same
    exact symbolName_inj same
  · intro route route' type type' operation operation' _ _ _ _ _ _ entry entry' reached reached'
      same
    rw [Route.name_of_reach reached, Route.name_of_reach reached'] at same
    exact symbolName_inj same
  · intro loaded symbol call called
    have dealing : .called loaded symbol call ∈ world.outside.dealings :=
      List.mem_filter.mpr ⟨called, rfl⟩
    have reachable : world.Reachable _ := run_reachable_any state steps
    obtain ⟨number, route, cache, type, held, rfl⟩ :=
      reachable.attributed.called loaded symbol call dealing
    refine ⟨number, route, cache, type, held, rfl, ?_⟩
    intro stem' type' operation' same
    exact symbolName_inj same.symm

open Simulation

/-- The name that was called under the second stem is the name for no other stem, type or
operation. -/
theorem pooled_calls_own_names :
    let world := ((start (P := Machine.platform) {}).run pooledSteps).world
    (∃ loaded call, .called loaded "partial_f_alloc" call ∈ world.outside.journal) ∧
    ∀ stem type operation, "partial_f_alloc" = symbolName stem type operation →
      stem = "partial_" ∧ type = .float32 ∧ operation = .alloc := by
  intro world
  have once : world.allocCalls "partial_f_alloc" 0x600000 = 1 := by decide +kernel
  obtain ⟨entry, member, obtains⟩ :=
    List.countP_pos_iff.mp (once ▸ Nat.one_pos : 0 < world.allocCalls "partial_f_alloc" 0x600000)
  obtain ⟨tells, _, calls⟩ := run_calls_own_names (P := Machine.platform) {} pooledSteps
  cases entry with
  | called loaded symbol call =>
      cases call with
      | alloc length address =>
          obtain ⟨rfl, rfl⟩ := of_decide_eq_true obtains
          refine ⟨⟨loaded, _, member⟩, ?_⟩
          obtain ⟨_, route, _, type, _, named, only⟩ := calls _ _ _ member
          obtain ⟨stem, rfl, _⟩ := tells "partial_" route.stem .float32 type .alloc _ named
          intro stem' type' operation' same
          obtain ⟨rfl, rfl, rfl⟩ := only stem' type' operation' same
          exact ⟨stem.symm, rfl, rfl⟩
      | dealloc => cases obtains
  | _ => cases obtains

end Session

end TypedMemory
