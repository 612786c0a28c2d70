import TypedMemory.Proofs.Release

/-!
# Worlds that libraries cannot tell apart

Two worlds are compared by what a library can find out about them. An outlook says
which states of the platform are alike, so that loaders and libraries answer alike in
them now and later, and which entries of the journal are looked at. A dealing with a
library has one answer in worlds that agree, and the worlds agree afterwards
(`Outlook.request_together` and those that follow it).

The path that a request names plays a part only until the library is cached. So two
requests may name different paths, if they find the library there.
-/

namespace TypedMemory

variable {P : Platform}

/-- States of a platform that loaders and libraries do not tell apart, and the entries
of the journal that are compared. Warnings are not. -/
structure Outlook (P : Platform) where
  Alike : P.State → P.State → Prop
  seen : Entry P → Bool
  opened : ∀ {state state'}, Alike state state' → ∀ loader path,
    (P.openLibrary loader path state).1 = (P.openLibrary loader path state').1 ∧
      Alike (P.openLibrary loader path state).2 (P.openLibrary loader path state').2
  lookedUp : ∀ {state state'}, Alike state state' → ∀ library name,
    P.lookUp library name state = P.lookUp library name state'
  obtained : ∀ {state state'}, Alike state state' → ∀ routine length,
    (P.callAlloc routine length state).1 = (P.callAlloc routine length state').1 ∧
      Alike (P.callAlloc routine length state).2 (P.callAlloc routine length state').2
  released : ∀ {state state'}, Alike state state' → ∀ routine address,
    Alike (P.callDealloc routine address state) (P.callDealloc routine address state')
  unwarned : ∀ event : Event, event.level = .warn → seen (.reported event) = false

/-- Only equal states are alike. -/
def Outlook.ofEq (seen : Entry P → Bool)
    (unwarned : ∀ event : Event, event.level = .warn → seen (.reported event) = false) :
    Outlook P where
  Alike := Eq
  seen := seen
  opened same _ _ := by rw [same]; exact ⟨rfl, rfl⟩
  lookedUp same _ _ := by rw [same]
  obtained same _ _ := by rw [same]; exact ⟨rfl, rfl⟩
  released same _ _ := by rw [same]
  unwarned := unwarned

/-- Two routes that lead to the same library and the same entry points: they are the
same, or the library is cached, and then it does not matter what path they name. -/
structure Route.Alongside (cache : Cache P) (route route' : Route) : Prop where
  backend : route'.backend = route.backend
  stem : route'.stem = route.stem
  path : route'.path = route.path ∨ (cache.get? route.backend).isSome

theorem Route.Alongside.refl (cache : Cache P) (route : Route) : route.Alongside cache route :=
  ⟨rfl, rfl, .inl rfl⟩

/-- Entry points have the same names on routes that lead to the same library. -/
theorem Route.Alongside.symbol {cache : Cache P} {route route' : Route}
    (along : route.Alongside cache route') (type : ElementType) (operation : Operation) :
    route'.symbol type operation = route.symbol type operation := by
  unfold Route.symbol
  rw [along.stem]

namespace Outlook

variable {view : Outlook P} {left right : Outside P}

/-- The states are alike, and the entries that are looked at are the same. -/
structure Agree (view : Outlook P) (left right : Outside P) : Prop where
  state : view.Alike left.state right.state
  journal : left.journal.filter view.seen = right.journal.filter view.seen

namespace Agree

/-- States that are alike may take the place of states that are alike. -/
theorem withState (agree : view.Agree left right) {state state' : P.State}
    (alike : view.Alike state state') :
    view.Agree { left with state } { right with state := state' } :=
  ⟨alike, agree.journal⟩

/-- The same entry may be made on both sides. -/
theorem enter (agree : view.Agree left right) (entry : Entry P) :
    view.Agree (left.enter entry) (right.enter entry) where
  state := agree.state
  journal := by
    unfold Outside.enter
    rw [List.filter_append, List.filter_append, agree.journal]

/-- The same report may be made on both sides. -/
theorem report (agree : view.Agree left right) (level : Level) (message : String)
    (fields : List (String × FieldValue)) :
    view.Agree (left.report level message fields) (right.report level message fields) :=
  agree.enter _

/-- What is not looked at may be entered on one side only. -/
theorem enter_left (agree : view.Agree left right) {entry : Entry P}
    (unseen : view.seen entry = false) : view.Agree (left.enter entry) right where
  state := agree.state
  journal := by
    unfold Outside.enter
    rw [List.filter_append, List.filter_cons_of_neg (by simp [unseen]), agree.journal]
    exact List.append_nil _

/-- An entry that is not looked at may be made on one side only. -/
theorem enter_right (agree : view.Agree left right) {entry : Entry P}
    (unseen : view.seen entry = false) : view.Agree left (right.enter entry) where
  state := agree.state
  journal := by
    unfold Outside.enter
    rw [List.filter_append, List.filter_cons_of_neg (by simp [unseen]), agree.journal]
    exact (List.append_nil _).symm

/-- A reading of the journal that passes over what is not looked at is the same on both
sides. -/
theorem filterMap (agree : view.Agree left right) {α : Type} (read : Entry P → Option α)
    (passes : ∀ entry, view.seen entry = false → read entry = none) :
    left.journal.filterMap read = right.journal.filterMap read := by
  have looked (journal : List (Entry P)) :
      journal.filterMap read = (journal.filter view.seen).filterMap read := by
    rw [List.filterMap_filter]
    congr 1
    funext entry
    cases told : view.seen entry with
    | true => rfl
    | false => exact passes entry told
  rw [looked, looked right.journal, agree.journal]

/-- A library may be handed out to requests that name different paths. -/
theorem handOut (agree : view.Agree left right) (loaded : LoadedLibrary P) (path path' : Path) :
    view.Agree (loaded.handOut path left) (loaded.handOut path' right) := by
  have warned : view.Agree (loaded.handOut path left) right := by
    unfold LoadedLibrary.handOut
    split
    · exact agree
    · exact agree.enter_left (view.unwarned _ rfl)
  generalize loaded.handOut path left = handed at warned ⊢
  unfold LoadedLibrary.handOut
  split
  · exact warned
  · exact warned.enter_right (view.unwarned _ rfl)

/-- A library is opened, found, or not opened alike on both sides. If it is found, the paths may
differ; then each side may or may not be warned, which is not looked at. -/
theorem acquire (agree : view.Agree left right) {cache : Cache P} {route route' : Route}
    (along : route.Alongside cache route') (number : Nat) :
    ∃ answer later after after',
      cache.acquire number route.descriptor left = (answer, later, after) ∧
      cache.acquire number route'.descriptor right = (answer, later, after') ∧
      view.Agree after after' := by
  cases cached : cache.get? route.backend with
  | some loaded =>
      have cached' : cache.get? route'.backend = some loaded := along.backend ▸ cached
      exact ⟨_, _, _, _, Cache.acquire_of_cached cached, Cache.acquire_of_cached cached',
        agree.handOut loaded route.path route'.path⟩
  | none =>
      -- The library has to be opened, so the two requests name the same path.
      have path : route'.path = route.path := by
        rcases along.path with same | there
        · exact same
        · rw [cached] at there
          cases there
      have same : route = route' := by
        cases route
        cases route'
        cases along.backend
        cases along.stem
        cases path
        rfl
      subst same
      obtain ⟨answered, alike⟩ := view.opened agree.state number route.path
      rcases opening : P.openLibrary number route.path left.state with ⟨answer, state⟩
      rcases opening' : P.openLibrary number route.path right.state with ⟨answer', state'⟩
      rw [opening, opening'] at answered alike
      cases answered
      simp only [Cache.acquire, Cache.look, Cache.load, Route.descriptor, cached, opening, opening']
      cases answer with
      | error error =>
          exact ⟨_, _, _, _, rfl, rfl, ((agree.withState alike).enter _).report ..⟩
      | ok library =>
          exact ⟨_, _, _, _, rfl, rfl, ((agree.withState alike).enter _).report ..⟩

/-- A name is looked up alike on both sides. -/
theorem resolve (agree : view.Agree left right) (loaded : LoadedLibrary P) (name : String) :
    ∃ answer after after', loaded.resolve name left = (answer, after) ∧
      loaded.resolve name right = (answer, after') ∧ view.Agree after after' := by
  unfold LoadedLibrary.resolve
  rw [view.lookedUp agree.state]
  cases P.lookUp loaded.library name right.state with
  | missing reason => exact ⟨_, _, _, rfl, rfl, agree⟩
  | null => exact ⟨_, _, _, rfl, rfl, agree⟩
  | found routine => exact ⟨_, _, _, rfl, rfl, agree.report ..⟩

variable {cache : Cache P} {route route' : Route}

/-- An entry point is reached alike on both sides, or missed with one error. -/
theorem reach (agree : view.Agree left right) (along : route.Alongside cache route')
    (type : ElementType) (operation : Operation) (number : Nat) :
    ∃ answer later after after',
      route.reach type operation number cache left = (answer, later, after) ∧
      route'.reach type operation number cache right = (answer, later, after') ∧
      view.Agree after after' := by
  obtain ⟨answer, later, after, after', asked, asked', agree⟩ := agree.acquire along number
  unfold Route.reach
  rw [asked, asked', along.symbol]
  cases answer with
  | error error => exact ⟨_, _, _, _, rfl, rfl, agree⟩
  | ok loaded =>
      obtain ⟨entry, after, after', looked, looked', agree⟩ :=
        agree.resolve loaded (route.symbol type operation)
      simp only [looked, looked']
      exact ⟨_, _, _, _, rfl, rfl, agree⟩

/-- Both sides find alike whether blocks could be had. -/
theorem prepare (agree : view.Agree left right) (along : route.Alongside cache route')
    (type : ElementType) (number : Nat) :
    ∃ answer later after after', route.prepare type number cache left = (answer, later, after) ∧
      route'.prepare type number cache right = (answer, later, after') ∧
      view.Agree after after' := by
  obtain ⟨answer, later, after, after', asked, asked', agree⟩ := agree.acquire along number
  unfold Route.prepare
  rw [asked, asked', along.symbol, along.symbol]
  cases answer with
  | error error => exact ⟨_, _, _, _, rfl, rfl, agree⟩
  | ok loaded =>
      obtain ⟨entry, after, after', looked, looked', agree⟩ :=
        agree.resolve loaded (route.symbol type .alloc)
      simp only [looked, looked']
      cases entry with
      | error error => exact ⟨_, _, _, _, rfl, rfl, agree⟩
      | ok entry =>
          obtain ⟨entry, after, after', again, again', agree⟩ :=
            agree.resolve loaded (route.symbol type .dealloc)
          simp only [again, again']
          cases entry <;> exact ⟨_, _, _, _, rfl, rfl, agree⟩

/-- Both sides call the same entry point with the same length, if they call one, and get the
same address. -/
theorem allocate (agree : view.Agree left right) (along : route.Alongside cache route')
    (type : ElementType) (length : UInt64) (number : Nat) (stats : Stats) :
    ∃ answer stats' later after after',
      route.allocate type length number stats cache left = (answer, stats', later, after) ∧
      route'.allocate type length number stats cache right = (answer, stats', later, after') ∧
      view.Agree after after' := by
  unfold Route.allocate
  split
  · exact ⟨_, _, _, _, _, rfl, rfl, agree⟩
  · obtain ⟨answer, later, after, after', asked, asked', agree⟩ :=
      agree.reach along type .alloc number
    rw [asked, asked']
    cases answer with
    | error error => exact ⟨_, _, _, _, _, rfl, rfl, agree⟩
    | ok entry =>
        obtain ⟨answered, alike⟩ :=
          view.obtained agree.state entry.routine (Int64.ofNat length.toNat)
        dsimp only [EntryPoint.callAlloc]
        rw [answered]
        split
        · exact ⟨_, _, _, _, _, rfl, rfl, (agree.withState alike).enter _⟩
        · exact ⟨_, _, _, _, _, rfl, rfl, ((agree.withState alike).enter _).report ..⟩

/-- Both sides call the same entry point with the same address, or fail with one error. -/
theorem deallocate (agree : view.Agree left right) (along : route.Alongside cache route')
    (type : ElementType) (address : Nat) (length : UInt64) (number : Nat) (stats : Stats) :
    ∃ answer stats' later after after',
      route.deallocate type address length number stats cache left =
        (answer, stats', later, after) ∧
      route'.deallocate type address length number stats cache right =
        (answer, stats', later, after') ∧
      view.Agree after after' := by
  obtain ⟨answer, later, after, after', asked, asked', agree⟩ :=
    agree.reach along type .dealloc number
  unfold Route.deallocate
  rw [asked, asked']
  cases answer with
  | error error => exact ⟨_, _, _, _, _, rfl, rfl, agree⟩
  | ok entry =>
      have alike := view.released agree.state entry.routine address
      exact ⟨_, _, _, _, _, rfl, rfl, ((agree.withState alike).enter _).report ..⟩

end Agree

end Outlook

namespace World

/-- The world after a dealing with a provider. -/
def charged (world : World P) (number : Nat) (stats : Stats) (caches : Nat → Cache P)
    (outside : Outside P) : World P :=
  { world with
    outside
    caches
    providers := replace world.providers number { world.providers number with stats } }

@[simp] theorem charged_source (world : World P) (number other : Nat) (stats : Stats)
    (caches : Nat → Cache P) (outside : Outside P) :
    ((world.charged number stats caches outside).providers other).source =
      (world.providers other).source := by
  by_cases same : other = number <;> simp [charged, replace, same]

/-- Charging a provider sets its counters and no others. -/
theorem charged_stats (world : World P) (number other : Nat) (stats : Stats)
    (caches : Nat → Cache P) (outside : Outside P) :
    ((world.charged number stats caches outside).providers other).stats =
      if other = number then stats else (world.providers other).stats := by
  by_cases same : other = number <;> simp [charged, replace, same]

variable {world : World P} {number cacheNumber : Nat} {route : Route} {type : ElementType}
  {length : UInt64} {address : Nat} {stats : Stats} {cache : Cache P} {outside : Outside P}

/-- A request to a provider of host memory charges the provider with what the host answers. -/
theorem request_of_host {answer : Except Error Nat}
    (source : (world.providers number).source = .host)
    (asked : HostMemory.allocate type length (world.providers number).stats world.outside =
      (answer, stats, outside)) :
    world.request number type length =
      (answer, world.charged number stats world.caches outside) := by
  simp only [request, charged, source, asked]

/-- A provider of host memory can always have blocks. -/
theorem prepare_of_host (source : (world.providers number).source = .host) :
    world.prepare number type = (.ok (),
      world.charged number (world.providers number).stats world.caches world.outside) := by
  simp only [prepare, charged, source]
  rw [← source, replace_self]

/-- A return to a provider of host memory charges the provider with what the host answers. -/
theorem giveBack_of_host {answer : Except Error Unit}
    (source : (world.providers number).source = .host)
    (asked : HostMemory.deallocate type address length (world.providers number).stats
      world.outside = (answer, stats, outside)) :
    world.giveBack number type address length =
      (answer, world.charged number stats world.caches outside) := by
  simp only [giveBack, charged, source, asked]

/-- A request to a provider that takes a library charges the provider with what its route
answers, and keeps the library that was opened. -/
theorem request_of_library {answer : Except Error Nat}
    (source : (world.providers number).source = .library route cacheNumber)
    (asked : route.allocate type length cacheNumber (world.providers number).stats
      (world.caches cacheNumber) world.outside = (answer, stats, cache, outside)) :
    world.request number type length =
      (answer, world.charged number stats (replace world.caches cacheNumber cache) outside) := by
  simp only [request, charged, source, asked]

/-- Making sure that blocks could be had charges nobody, but keeps the library that was opened.
-/
theorem prepare_of_library {answer : Except Error Unit}
    (source : (world.providers number).source = .library route cacheNumber)
    (asked : route.prepare type cacheNumber (world.caches cacheNumber) world.outside =
      (answer, cache, outside)) :
    world.prepare number type =
      (answer, world.charged number (world.providers number).stats
        (replace world.caches cacheNumber cache) outside) := by
  simp only [prepare, charged, source, asked]
  rw [← source, replace_self]

/-- A return to a provider that takes a library charges the provider with what its route
answers. -/
theorem giveBack_of_library {answer : Except Error Unit}
    (source : (world.providers number).source = .library route cacheNumber)
    (asked : route.deallocate type address length cacheNumber (world.providers number).stats
      (world.caches cacheNumber) world.outside = (answer, stats, cache, outside)) :
    world.giveBack number type address length =
      (answer, world.charged number stats (replace world.caches cacheNumber cache) outside) := by
  simp only [giveBack, charged, source, asked]

end World

namespace Outlook

open World

variable {view : Outlook P} {left right : World P} {number cacheNumber : Nat}
  {route route' : Route}

/-- Dealings with a provider in two worlds that have one answer, charge the provider
alike, and leave the same caches and outsides that agree. -/
def Together (view : Outlook P) (number : Nat) (left right : World P) {α : Type}
    (one other : α × World P) : Prop :=
  ∃ answer stats caches outside outside',
    one = (answer, left.charged number stats caches outside) ∧
    other = (answer, right.charged number stats caches outside') ∧ view.Agree outside outside'

/-- Providers in two worlds that reach the same library, and charge alike. -/
structure Abreast (view : Outlook P) (number : Nat) (left right : World P) (route route' : Route)
    (cacheNumber : Nat) : Prop where
  source : (left.providers number).source = .library route cacheNumber
  source' : (right.providers number).source = .library route' cacheNumber
  along : route.Alongside (left.caches cacheNumber) route'
  stats : (right.providers number).stats = (left.providers number).stats
  caches : right.caches = left.caches
  agree : view.Agree left.outside right.outside

/-- Providers that reach the same library grant a block alike, or refuse it with one error. -/
theorem request_together (abreast : view.Abreast number left right route route' cacheNumber)
    (type : ElementType) (length : UInt64) :
    view.Together number left right (left.request number type length)
      (right.request number type length) := by
  obtain ⟨source, source', along, stats, caches, agree⟩ := abreast
  obtain ⟨answer, _, _, after, after', asked, asked', agree⟩ :=
    agree.allocate along type length cacheNumber (left.providers number).stats
  rw [← stats, ← caches] at asked'
  exact ⟨_, _, _, after, after', request_of_library source asked,
    caches ▸ request_of_library source' asked', agree⟩

/-- Providers that reach the same library find alike whether they could grant blocks. -/
theorem prepare_together (abreast : view.Abreast number left right route route' cacheNumber)
    (type : ElementType) :
    view.Together number left right (left.prepare number type) (right.prepare number type) := by
  obtain ⟨source, source', along, stats, caches, agree⟩ := abreast
  obtain ⟨answer, later, after, after', asked, asked', agree⟩ :=
    agree.prepare along type cacheNumber
  rw [← caches] at asked'
  exact ⟨_, _, _, after, after', prepare_of_library source asked,
    caches ▸ stats ▸ prepare_of_library source' asked', agree⟩

/-- Providers that reach the same library take a block back alike, or fail with one error. -/
theorem giveBack_together (abreast : view.Abreast number left right route route' cacheNumber)
    (type : ElementType) (address : Nat) (length : UInt64) :
    view.Together number left right (left.giveBack number type address length)
      (right.giveBack number type address length) := by
  obtain ⟨source, source', along, stats, caches, agree⟩ := abreast
  obtain ⟨answer, _, _, after, after', asked, asked', agree⟩ :=
    agree.deallocate along type address length cacheNumber (left.providers number).stats
  rw [← stats, ← caches] at asked'
  exact ⟨_, _, _, after, after', giveBack_of_library source asked,
    caches ▸ giveBack_of_library source' asked', agree⟩

end Outlook

end TypedMemory
