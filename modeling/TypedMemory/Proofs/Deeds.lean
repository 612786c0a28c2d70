import TypedMemory.Proofs.Lengths
import TypedMemory.Proofs.Ownership

/-!
# What the platform goes through

The journal is what is written down about the platform. What is done to the
platform shows in its state. A deed is one operation of the platform, carried out on
the state that the deed before it left, and a course is a list of deeds
(`Platform.Course`). Every step of a session takes the platform through a course of
deeds and changes its state in no other way, and what the step writes into the
journal agrees with these deeds one by one: the openings and calls that are told
are those that were made, a grant stands for memory that was obtained, and the
return of a block that was freed for memory that was taken back
(`Session.run_performs`).
-/

namespace TypedMemory

variable {P : Platform}

/-- Something that is done to a platform. -/
inductive Deed (P : Platform) where
  /-- A loader is asked to open a library, and does so or does not. -/
  | opened (loader : Nat) (path : Path) (succeeded : Bool)
  /-- An entry point is called. -/
  | called (loaded : LoadedLibrary P) (symbol : String) (call : Call)
  /-- The host is asked for memory, and this address comes back. -/
  | hostAlloc (size alignment address : Nat)
  /-- Memory is given back to the host. -/
  | hostFree (address size alignment : Nat)

/-- A deed takes a platform from one state to another: the operation of the platform
does, and it gives the answers that the deed tells of. An entry point that is called
is the routine that its name stands for in its library at that time. -/
inductive Platform.Undergoes (P : Platform) : P.State → Deed P → P.State → Prop
  | opened {before after : P.State} {loader : Nat} {path : Path} {answer : Except Error P.Library}
      (asked : P.openLibrary loader path before = (answer, after)) :
      Undergoes P before (.opened loader path answer.isOk) after
  | alloc {before after : P.State} {loaded : LoadedLibrary P} {symbol : String}
      {routine : P.Routine} {length : Int64} {address : Nat}
      (found : P.lookUp loaded.library symbol before = .found routine)
      (asked : P.callAlloc routine length before = (address, after)) :
      Undergoes P before (.called loaded symbol (.alloc length address)) after
  | dealloc {before : P.State} {loaded : LoadedLibrary P} {symbol : String}
      {routine : P.Routine} (found : P.lookUp loaded.library symbol before = .found routine)
      (address : Nat) :
      Undergoes P before (.called loaded symbol (.dealloc address))
        (P.callDealloc routine address before)
  | hostAlloc {before after : P.State} {size alignment address : Nat}
      (asked : P.hostAlloc size alignment before = (address, after)) :
      Undergoes P before (.hostAlloc size alignment address) after
  | hostFree (before : P.State) (address size alignment : Nat) :
      Undergoes P before (.hostFree address size alignment)
        (P.hostFree address size alignment before)

/-- Deeds that take a platform from one state to another, one after the other. -/
inductive Platform.Course (P : Platform) : P.State → List (Deed P) → P.State → Prop
  | nil (state : P.State) : Course P state [] state
  | cons {before middle after : P.State} {deed : Deed P} {deeds : List (Deed P)}
      (first : P.Undergoes before deed middle) (rest : Course P middle deeds after) :
      Course P before (deed :: deeds) after

namespace Platform.Course

/-- One deed is a course. -/
theorem single {before after : P.State} {deed : Deed P} (done : P.Undergoes before deed after) :
    P.Course before [deed] after :=
  .cons done (.nil after)

/-- A course may go on where another ended. -/
theorem append {first second third : P.State} {early late : List (Deed P)}
    (left : P.Course first early second) (right : P.Course second late third) :
    P.Course first (early ++ late) third := by
  induction left with
  | nil state => exact right
  | cons done _ ih => exact .cons done (ih right)

end Platform.Course

/-- Memory that passes between the platform and a provider. -/
inductive Transfer where
  /-- Host memory of a size and an alignment. -/
  | host (address size alignment : Nat)
  /-- Memory that an entry point gives or takes. -/
  | library (symbol : String) (call : Call)
deriving Repr, DecidableEq

namespace Deed

/-- Whether a deed has an entry of its own in the journal. -/
def isEntered : Deed P → Bool
  | .opened _ _ _ => true
  | .called _ _ _ => true
  | .hostAlloc _ _ _ => false
  | .hostFree _ _ _ => false

/-- The memory that is obtained by a deed, if any. -/
def supply? : Deed P → Option Transfer
  | .called _ symbol (.alloc length address) =>
      if address = 0 then none else some (.library symbol (.alloc length address))
  | .hostAlloc size alignment address =>
      if address = 0 then none else some (.host address size alignment)
  | _ => none

/-- The memory that is taken back by a deed, if any. -/
def reclaim? : Deed P → Option Transfer
  | .called _ symbol (.dealloc address) => some (.library symbol (.dealloc address))
  | .hostFree address size alignment => some (.host address size alignment)
  | _ => none

end Deed

namespace Source

/-- How a source obtains the memory of a block. -/
def supply (source : Source) (holding : Holding) : Transfer :=
  match source with
  | .host =>
      .host holding.address (holding.length.toNat * holding.type.size) holding.type.alignment
  | .library route _ =>
      .library (route.symbol holding.type .alloc)
        (.alloc (Int64.ofNat holding.length.toNat) holding.address)

/-- How a source gives the memory of a block back. -/
def reclaim (source : Source) (holding : Holding) : Transfer :=
  match source with
  | .host =>
      .host holding.address (holding.length.toNat * holding.type.size) holding.type.alignment
  | .library route _ =>
      .library (route.symbol holding.type .dealloc) (.dealloc holding.address)

end Source

/-- Whether a block was freed. -/
def World.freed (world : World P) (number : Nat) : Bool :=
  world.blocks[number]?.bind Block.outcome = some .freed

namespace Entry

/-- The deed that an entry tells of, if it tells of one. -/
def deed? : Entry P → Option (Deed P)
  | .opened cache _ path succeeded => some (.opened cache path succeeded)
  | .called loaded symbol call => some (.called loaded symbol call)
  | _ => none

/-- The memory that must have been obtained, if the entry is a grant. -/
def supply? (world : World P) : Entry P → Option Transfer
  | .granted _ provider type address length =>
      some ((world.providers provider).source.supply ⟨provider, type, address, length⟩)
  | _ => none

/-- The memory that must have been taken back, if the entry is the return of a block
that was freed. -/
def reclaim? (world : World P) : Entry P → Option Transfer
  | .returned number provider type address length =>
      if world.freed number then
        some ((world.providers provider).source.reclaim ⟨provider, type, address, length⟩)
      else none
  | _ => none

/-- Whether an entry is a grant or a return. -/
def isTransfer : Entry P → Bool
  | .granted _ _ _ _ _ => true
  | .returned _ _ _ _ _ => true
  | _ => false

/-- Where nothing is granted, the entries tell of no memory that was obtained. -/
theorem filterMap_supply?_eq_nil {made : List (Entry P)}
    (plain : ∀ entry ∈ made, entry.isTransfer = false) (world : World P) :
    made.filterMap (supply? world) = [] := by
  refine List.filterMap_eq_nil_iff.mpr fun entry member => ?_
  cases entry with
  | granted => cases plain _ member
  | _ => rfl

/-- Where nothing is returned, the entries tell of no memory that was taken back. -/
theorem filterMap_reclaim?_eq_nil {made : List (Entry P)}
    (plain : ∀ entry ∈ made, entry.isTransfer = false) (world : World P) :
    made.filterMap (reclaim? world) = [] := by
  refine List.filterMap_eq_nil_iff.mpr fun entry member => ?_
  cases entry with
  | returned => cases plain _ member
  | _ => rfl

/-- Entries that tell of all deeds that are entered tell of every call. -/
theorem called_mem {made : List (Entry P)} {deeds : List (Deed P)}
    (told : made.filterMap deed? = deeds.filter Deed.isEntered) {loaded : LoadedLibrary P}
    {symbol : String} {call : Call} (done : .called loaded symbol call ∈ deeds) :
    .called loaded symbol call ∈ made := by
  have entered : Deed.called loaded symbol call ∈ deeds.filter Deed.isEntered :=
    List.mem_filter.mpr ⟨done, rfl⟩
  rw [← told] at entered
  obtain ⟨entry, member, same⟩ := List.mem_filterMap.mp entered
  cases entry with
  | called =>
      cases same
      exact member
  | opened | reported | granted | returned => cases same

end Entry

namespace Outside

/-- Deeds lead from one state of affairs to another, and those that have entries were
entered in the journal, in order. Nothing was granted or returned. -/
structure Recounts (before : Outside P) (deeds : List (Deed P)) (after : Outside P) : Prop where
  course : P.Course before.state deeds after.state
  journal : ∃ made, after.journal = before.journal ++ made ∧
    (∀ entry ∈ made, entry.isTransfer = false) ∧
    made.filterMap Entry.deed? = deeds.filter Deed.isEntered

/-- Some deeds lead from one state of affairs to another, by which memory was obtained
and taken back. -/
def Deals (before : Outside P) (supplied reclaimed : List Transfer) (after : Outside P) : Prop :=
  ∃ deeds, before.Recounts deeds after ∧ deeds.filterMap Deed.supply? = supplied ∧
    deeds.filterMap Deed.reclaim? = reclaimed

/-- What is done and told in two parts is done and told as a whole. -/
theorem Recounts.trans {first second third : Outside P} {early late : List (Deed P)}
    (left : first.Recounts early second) (right : second.Recounts late third) :
    first.Recounts (early ++ late) third := by
  obtain ⟨made, journal, plain, told⟩ := left.journal
  obtain ⟨made', journal', plain', told'⟩ := right.journal
  refine ⟨left.course.append right.course, made ++ made', ?_, ?_, ?_⟩
  · rw [journal', journal, List.append_assoc]
  · intro entry member
    rcases List.mem_append.mp member with older | newer
    · exact plain entry older
    · exact plain' entry newer
  · rw [List.filterMap_append, List.filter_append, told, told']

/-- An entry that tells of nothing done to the platform. -/
theorem Recounts.remark (outside : Outside P) {entry : Entry P}
    (plain : entry.isTransfer = false) (untold : entry.deed? = none) :
    outside.Recounts [] (outside.enter entry) := by
  refine ⟨.nil _, [entry], rfl, ?_, ?_⟩
  · intro other member
    rw [List.mem_singleton.mp member]
    exact plain
  · rw [List.filterMap_cons, untold]
    rfl

/-- A deed that is entered in the journal. -/
theorem Recounts.entered {outside : Outside P} {deed : Deed P} {state : P.State}
    (done : P.Undergoes outside.state deed state) {entry : Entry P}
    (told : entry.deed? = some deed) :
    outside.Recounts [deed] ({ outside with state }.enter entry) := by
  refine ⟨.single done, [entry], rfl, ?_, ?_⟩
  · intro other member
    rw [List.mem_singleton.mp member]
    cases entry with
    | opened | called => rfl
    | reported | granted | returned => cases told
  · have open_or_call : deed.isEntered = true := by
      cases entry with
      | opened | called =>
          cases told
          rfl
      | reported | granted | returned => cases told
    rw [List.filterMap_cons, told, List.filter_cons_of_pos open_or_call]
    rfl

/-- A deed of which the journal does not tell. -/
theorem Recounts.silent {outside : Outside P} {deed : Deed P} {state : P.State}
    (done : P.Undergoes outside.state deed state) (unentered : deed.isEntered = false) :
    outside.Recounts [deed] { outside with state } := by
  refine ⟨.single done, [], (List.append_nil _).symm, nofun, ?_⟩
  rw [List.filter_cons_of_neg (by rw [unentered]; exact Bool.false_ne_true)]
  rfl

namespace Deals

variable {supplied reclaimed : List Transfer}

theorem refl (outside : Outside P) : outside.Deals [] [] outside :=
  ⟨[], ⟨.nil _, [], (List.append_nil _).symm, nofun, rfl⟩, rfl, rfl⟩

/-- Memory that changes hands in two parts changes hands as a whole. -/
theorem trans {first second third : Outside P} {supplied' reclaimed' : List Transfer}
    (left : first.Deals supplied reclaimed second)
    (right : second.Deals supplied' reclaimed' third) :
    first.Deals (supplied ++ supplied') (reclaimed ++ reclaimed') third := by
  obtain ⟨early, recounts, rfl, rfl⟩ := left
  obtain ⟨late, recounts', rfl, rfl⟩ := right
  exact ⟨early ++ late, recounts.trans recounts', List.filterMap_append, List.filterMap_append⟩

/-- A report tells of nothing that is done to the platform. -/
theorem report {before after : Outside P} (deals : before.Deals supplied reclaimed after)
    (level : Level) (message : String) (fields : List (String × FieldValue)) :
    before.Deals supplied reclaimed (after.report level message fields) := by
  obtain ⟨deeds, recounts, same, same'⟩ := deals
  refine ⟨deeds, ?_, same, same'⟩
  rw [← List.append_nil deeds]
  exact recounts.trans (.remark after rfl rfl)

end Deals

end Outside

/-! ### Libraries and their entry points -/

/-- Handing a library out does nothing to the platform. -/
theorem LoadedLibrary.handOut_deals (loaded : LoadedLibrary P) (path : Path)
    (outside : Outside P) : outside.Deals [] [] (loaded.handOut path outside) := by
  unfold handOut
  split
  · exact .refl outside
  · exact (Outside.Deals.refl outside).report ..

/-- A second look opens the library, if it is not there, and tells of that. -/
theorem Cache.load_deals (number : Nat) (cache : Cache P) (backend : Backend) (path : Path)
    (outside : Outside P) :
    outside.Deals [] [] (cache.load number backend path outside).2.2 := by
  rcases load_cases number cache backend path outside with
    ⟨loaded, _, equation⟩ | ⟨_, error, state, asked, equation⟩ |
      ⟨_, library, state, asked, equation⟩ <;> rw [equation]
  · exact loaded.handOut_deals path outside
  · exact Outside.Deals.report ⟨_, .entered (.opened asked) rfl, rfl, rfl⟩ ..
  · exact Outside.Deals.report ⟨_, .entered (.opened asked) rfl, rfl, rfl⟩ ..

/-- A request for a library opens it at most. -/
theorem Cache.acquire_deals (number : Nat) (cache : Cache P) (descriptor : Descriptor)
    (outside : Outside P) :
    outside.Deals [] [] (cache.acquire number descriptor outside).2.2 := by
  unfold acquire look
  cases descriptor.access with
  | direct => exact .refl outside
  | library path stem =>
      cases cache.get? descriptor.backend with
      | none => exact cache.load_deals number descriptor.backend path outside
      | some loaded => exact loaded.handOut_deals path outside

/-- Looking a name up does nothing to the platform. -/
theorem LoadedLibrary.resolve_deals (loaded : LoadedLibrary P) (name : String)
    (outside : Outside P) : outside.Deals [] [] (loaded.resolve name outside).2 := by
  unfold resolve
  split
  · exact .refl outside
  · exact .refl outside
  · exact (Outside.Deals.refl outside).report ..

/-- The name of an entry point that was looked up stands for its routine. -/
theorem LoadedLibrary.resolve_found {loaded : LoadedLibrary P} {name : String}
    {outside after : Outside P} {entry : EntryPoint P}
    (resolved : loaded.resolve name outside = (.ok entry, after)) :
    P.lookUp entry.loaded.library entry.name after.state = .found entry.routine := by
  unfold resolve at resolved
  split at resolved
  · cases resolved
  · cases resolved
  · next found =>
      cases resolved
      exact found

namespace EntryPoint

/-- Calling an entry point that obtains memory calls the routine that it stands for,
once. -/
theorem callAlloc_deals {entry : EntryPoint P} {outside : Outside P}
    (found : P.lookUp entry.loaded.library entry.name outside.state = .found entry.routine)
    (length : Int64) :
    outside.Deals
      (if (entry.callAlloc length outside).1 = 0 then []
        else [.library entry.name (.alloc length (entry.callAlloc length outside).1)])
      [] (entry.callAlloc length outside).2 := by
  refine ⟨_, .entered (.alloc found rfl) rfl, ?_, rfl⟩
  change List.filterMap Deed.supply?
    [.called entry.loaded entry.name (.alloc length (entry.callAlloc length outside).1)] = _
  by_cases null : (entry.callAlloc length outside).1 = 0 <;> simp [Deed.supply?, null]

/-- Calling an entry point that releases memory calls the routine that it stands for,
once. -/
theorem callDealloc_deals {entry : EntryPoint P} {outside : Outside P}
    (found : P.lookUp entry.loaded.library entry.name outside.state = .found entry.routine)
    (address : Nat) :
    outside.Deals [] [.library entry.name (.dealloc address)]
      (entry.callDealloc address outside) :=
  ⟨_, .entered (.dealloc found address) rfl, rfl, rfl⟩

end EntryPoint

namespace Route

/-- Reaching for an entry point does nothing to the platform but open the library. -/
theorem reach_deals (route : Route) (type : ElementType) (operation : Operation) (number : Nat)
    (cache : Cache P) (outside : Outside P) :
    outside.Deals [] [] (route.reach type operation number cache outside).2.2 := by
  have acquired := cache.acquire_deals number route.descriptor outside
  unfold reach
  rcases asked : cache.acquire number route.descriptor outside with ⟨error | loaded, later, after⟩
  · rw [asked] at acquired
    exact acquired
  · rw [asked] at acquired
    exact acquired.trans (loaded.resolve_deals _ after)

/-- The name of an entry point that was reached stands for its routine. -/
theorem reach_found {route : Route} {type : ElementType} {operation : Operation} {number : Nat}
    {cache later : Cache P} {outside after : Outside P} {entry : EntryPoint P}
    (reached : route.reach type operation number cache outside = (.ok entry, later, after)) :
    P.lookUp entry.loaded.library entry.name after.state = .found entry.routine := by
  unfold reach at reached
  rcases asked : cache.acquire number route.descriptor outside with ⟨error | loaded, kept, middle⟩
  · rw [asked] at reached
    cases reached
  · rw [asked] at reached
    simp only [Prod.mk.injEq] at reached
    exact LoadedLibrary.resolve_found (Prod.ext reached.1 reached.2.2)

/-- Making sure that blocks could be had does nothing to it but open the library. -/
theorem prepare_deals (route : Route) (type : ElementType) (number : Nat) (cache : Cache P)
    (outside : Outside P) :
    outside.Deals [] [] (route.prepare type number cache outside).2.2 := by
  have acquired := cache.acquire_deals number route.descriptor outside
  unfold prepare
  rcases asked : cache.acquire number route.descriptor outside with ⟨error | loaded, later, after⟩
  · rw [asked] at acquired
    exact acquired
  · rw [asked] at acquired
    have first := acquired.trans (loaded.resolve_deals (route.symbol type .alloc) after)
    rcases looked : loaded.resolve (route.symbol type .alloc) after with ⟨error | entry, outside₁⟩
    · rw [looked] at first
      simp only [looked]
      exact first
    · rw [looked] at first
      have second := first.trans (loaded.resolve_deals (route.symbol type .dealloc) outside₁)
      simp only [looked]
      rcases again : loaded.resolve (route.symbol type .dealloc) outside₁ with
        ⟨error | entry, outside₂⟩ <;>
        rw [again] at second <;>
        exact second

/-- Memory that a library grants was obtained by one call of its entry point. If none
is granted, none was obtained. -/
theorem allocate_deals (route : Route) (type : ElementType) (length : UInt64) (number : Nat)
    (stats : Stats) (cache : Cache P) (outside : Outside P) :
    outside.Deals
      ((route.allocate type length number stats cache outside).1.toOption.toList.map fun address =>
        .library (route.symbol type .alloc) (.alloc (Int64.ofNat length.toNat) address))
      [] (route.allocate type length number stats cache outside).2.2.2 := by
  have reached := route.reach_deals type .alloc number cache outside
  unfold allocate
  split
  · exact .refl outside
  · rcases asked : route.reach type .alloc number cache outside with ⟨error | entry, later, after⟩
    · rw [asked] at reached
      exact reached
    · have named := (route.reach_reached type .alloc number cache outside).named
      rw [asked] at reached named
      have called := reached.trans
        (EntryPoint.callAlloc_deals (reach_found asked) (Int64.ofNat length.toNat))
      rw [named entry rfl] at called
      by_cases null : (entry.callAlloc (Int64.ofNat length.toNat) after).1 = 0
      · rw [if_pos null] at called
        simp only [null, ↓reduceIte]
        exact called
      · rw [if_neg null] at called
        simp only [null, ↓reduceIte]
        exact called.report ..

/-- A library that takes memory back does so by one call of its entry point. If it does
not, nothing is called. -/
theorem deallocate_deals (route : Route) (type : ElementType) (address : Nat) (length : UInt64)
    (number : Nat) (stats : Stats) (cache : Cache P) (outside : Outside P) :
    outside.Deals []
      ((route.deallocate type address length number stats cache outside).1.toOption.toList.map
        fun _ => .library (route.symbol type .dealloc) (.dealloc address))
      (route.deallocate type address length number stats cache outside).2.2.2 := by
  have reached := route.reach_deals type .dealloc number cache outside
  unfold deallocate
  rcases asked : route.reach type .dealloc number cache outside with ⟨error | entry, later, after⟩
  · rw [asked] at reached
    exact reached
  · have named := (route.reach_reached type .dealloc number cache outside).named
    rw [asked] at reached named
    have called := reached.trans (EntryPoint.callDealloc_deals (reach_found asked) address)
    rw [named entry rfl] at called
    exact called.report ..

end Route

namespace HostMemory

/-- Memory that the host grants was obtained from the platform, by size and alignment. -/
theorem allocate_deals (type : ElementType) {length : UInt64} (nonempty : length ≠ 0)
    (stats : Stats) (outside : Outside P) :
    outside.Deals
      ((allocate type length stats outside).1.toOption.toList.map fun address =>
        .host address (length.toNat * type.size) type.alignment)
      [] (allocate type length stats outside).2.2 := by
  unfold allocate
  cases sized : layout type length with
  | error error => exact .refl outside
  | ok bytes =>
      have some_bytes : bytes ≠ 0 := layout_ne_zero nonempty sized
      obtain ⟨rfl, _⟩ := layout_ok sized
      rcases asked : P.hostAlloc (length.toNat * type.size) type.alignment outside.state with
        ⟨address, state⟩
      simp only [if_neg some_bytes, asked]
      have done : outside.Recounts
          [.hostAlloc (length.toNat * type.size) type.alignment address] { outside with state } :=
        .silent (.hostAlloc asked) rfl
      by_cases null : address = 0
      · subst null
        exact ⟨_, done, rfl, rfl⟩
      · have obtained : outside.Deals [.host address (length.toNat * type.size) type.alignment] []
            { outside with state } := ⟨_, done, by simp [Deed.supply?, null], rfl⟩
        rw [if_neg null]
        exact obtained.report ..

/-- Memory that the host takes back goes to the platform, by size and alignment. -/
theorem deallocate_deals (type : ElementType) (address : Nat) {length : UInt64}
    (nonempty : length ≠ 0) (stats : Stats) (outside : Outside P) :
    outside.Deals []
      ((deallocate type address length stats outside).1.toOption.toList.map fun _ =>
        .host address (length.toNat * type.size) type.alignment)
      (deallocate type address length stats outside).2.2 := by
  unfold deallocate
  cases sized : layout type length with
  | error error => exact .refl outside
  | ok bytes =>
      have some_bytes : bytes ≠ 0 := layout_ne_zero nonempty sized
      obtain ⟨rfl, _⟩ := layout_ok sized
      simp only [some_bytes, ↓reduceIte]
      exact Outside.Deals.report ⟨_, .silent (.hostFree ..) rfl, rfl, rfl⟩ ..

end HostMemory

/-! ### Providers -/

namespace World

/-- No provider obtains memory to find out whether it could. -/
theorem prepare_deals (world : World P) (number : Nat) (type : ElementType) :
    world.outside.Deals [] [] (world.prepare number type).2.outside := by
  unfold prepare
  split
  · exact .refl world.outside
  · next route cache _ => exact route.prepare_deals type cache (world.caches cache) world.outside

/-- What a provider grants it obtained, in the way of its source. -/
theorem request_deals (world : World P) (number : Nat) (type : ElementType) {length : UInt64}
    (nonempty : length ≠ 0) :
    world.outside.Deals
      ((world.request number type length).1.toOption.toList.map fun address =>
        (world.providers number).source.supply ⟨number, type, address, length⟩)
      [] (world.request number type length).2.outside := by
  dsimp only [request]
  split
  · next source =>
      rw [source]
      exact HostMemory.allocate_deals type nonempty (world.providers number).stats world.outside
  · next route cache source =>
      rw [source]
      exact route.allocate_deals type length cache (world.providers number).stats
        (world.caches cache) world.outside

/-- What a provider says it took back it gave back, in the way of its source. -/
theorem giveBack_deals (world : World P) (number : Nat) (type : ElementType) (address : Nat)
    {length : UInt64} (nonempty : length ≠ 0) :
    world.outside.Deals []
      ((world.giveBack number type address length).1.toOption.toList.map fun _ =>
        (world.providers number).source.reclaim ⟨number, type, address, length⟩)
      (world.giveBack number type address length).2.outside := by
  dsimp only [giveBack]
  split
  · next source =>
      rw [source]
      exact HostMemory.deallocate_deals type address nonempty (world.providers number).stats
        world.outside
  · next route cache source =>
      rw [source]
      exact route.deallocate_deals type address length cache (world.providers number).stats
        (world.caches cache) world.outside

/-- What was done to the platform on the way from one world to another, and what was
entered in the journal about it. The deeds lead from the one state of the platform to
the other, and the entries agree with them. -/
structure Does (before after : World P) (made : List (Entry P)) (deeds : List (Deed P)) :
    Prop where
  journal : after.outside.journal = before.outside.journal ++ made
  course : P.Course before.outside.state deeds after.outside.state
  told : made.filterMap Entry.deed? = deeds.filter Deed.isEntered
  supplied : made.filterMap (Entry.supply? after) = deeds.filterMap Deed.supply?
  reclaimed : made.filterMap (Entry.reclaim? after) = deeds.filterMap Deed.reclaim?

/-- No memory changed hands, and none is said to have done. -/
theorem does_of_quiet {before after : World P}
    (quiet : before.outside.Deals [] [] after.outside) :
    ∃ made deeds, before.Does after made deeds := by
  obtain ⟨deeds, ⟨course, made, journal, plain, told⟩, supplied, reclaimed⟩ := quiet
  refine ⟨made, deeds, journal, course, told, ?_, ?_⟩
  · rw [supplied, Entry.filterMap_supply?_eq_nil plain]
  · rw [reclaimed, Entry.filterMap_reclaim?_eq_nil plain]

/-- If nothing outside changed, nothing was done and nothing told. -/
theorem does_nothing {before after : World P} (same : after.outside = before.outside) :
    ∃ made deeds, before.Does after made deeds :=
  does_of_quiet (same ▸ .refl before.outside)

/-- A grant is entered after the memory was obtained. -/
theorem obtainBuffer_does (world : World P) (number : Nat) (type : ElementType)
    (length : UInt64) :
    ∃ made deeds, world.Does (world.obtainBuffer number type length).2 made deeds := by
  unfold obtainBuffer
  by_cases empty : length = 0
  · simp only [empty, ↓reduceIte]
    have prepared := world.prepare_deals number type
    rcases asked : world.prepare number type with ⟨error | _, after⟩ <;>
      rw [asked] at prepared <;>
      exact does_of_quiet prepared
  · simp only [empty, ↓reduceIte]
    have requested := world.request_deals number type empty
    rcases asked : world.request number type length with ⟨error | address, after⟩
    · rw [asked] at requested
      exact does_of_quiet requested
    · have source := (requested_of asked).1.source number
      rw [asked] at requested
      obtain ⟨deeds, ⟨course, made, journal, plain, told⟩, supplied, reclaimed⟩ := requested
      refine ⟨made ++ [.granted after.blocks.length number type address length], deeds,
        ?_, course, ?_, ?_, ?_⟩
      · rw [← List.append_assoc, ← journal]
        rfl
      · rw [filterMap_concat, told]
        exact List.append_nil _
      · rw [filterMap_concat, supplied, Entry.filterMap_supply?_eq_nil plain, ← source]
        rfl
      · rw [filterMap_concat, reclaimed, Entry.filterMap_reclaim?_eq_nil plain]
        rfl

/-- Retiring a block that has elements gives it back and settles it by the answer. -/
theorem retire_giveBack {world asked after : World P} {number : Nat} {block : Block}
    {answer : Except Error Unit} (filled : block.isEmpty = false)
    (entered : asked =
      world.enter (.returned number block.provider block.type block.address block.length))
    (answered : asked.giveBack block.provider block.type block.address block.length =
      (answer, after)) :
    ∃ level message fields, world.retire number block =
      (after.settle number (outcomeOf answer)).report level message fields := by
  subst entered
  unfold retire release
  rw [filled]
  cases answer with
  | error error =>
      simp only [Bool.false_eq_true, ↓reduceIte, answered]
      exact ⟨_, _, _, rfl⟩
  | ok _ =>
      simp only [Bool.false_eq_true, ↓reduceIte, answered, reduceCtorEq]
      exact ⟨_, _, _, rfl⟩

/-- A block is on record as freed if it was settled so. -/
theorem freed_settle {world : World P} {number : Nat} (present : number < world.blocks.length)
    (outcome : ReleaseOutcome) :
    (world.settle number outcome).freed number = decide (outcome = .freed) := by
  unfold freed settle modifyBlock
  rw [List.getElem?_modify_eq, List.getElem?_eq_getElem present]
  simp

/-- A return is entered before the memory is given back, and stands for that only if the
block is then on record as freed. -/
theorem retire_does {world : World P} {number : Nat} (present : number < world.blocks.length)
    (block : Block) : ∃ made deeds, world.Does (world.retire number block) made deeds := by
  cases filled : block.isEmpty with
  | true =>
      apply does_of_quiet
      unfold retire release
      rw [filled]
      exact (Outside.Deals.refl world.outside).report ..
  | false =>
      have nonempty : block.length ≠ 0 := of_decide_eq_false filled
      let asked := world.enter
        (.returned number block.provider block.type block.address block.length)
      have returned := asked.giveBack_deals block.provider block.type block.address nonempty
      have touches := (asked.giveBack_returned block.provider block.type block.address
        block.length).1
      rcases answered : asked.giveBack block.provider block.type block.address block.length with
        ⟨answer, after⟩
      rw [answered] at returned touches
      obtain ⟨level, message, fields, equation⟩ := retire_giveBack filled rfl answered
      obtain ⟨deeds, ⟨course, made, journal, plain, told⟩, supplied, reclaimed⟩ :=
        returned.report level message fields
      have settled : (world.retire number block).freed number =
          decide (outcomeOf answer = .freed) := by
        rw [equation]
        exact freed_settle (touches.blocks ▸ present) _
      have source : ((world.retire number block).providers block.provider).source =
          (world.providers block.provider).source := by
        rw [equation]
        exact touches.source block.provider
      refine ⟨.returned number block.provider block.type block.address block.length :: made, deeds,
        ?_, ?_, told, ?_, ?_⟩
      · rw [equation]
        exact journal.trans (List.append_assoc ..)
      · rw [equation]
        exact course
      · rw [supplied, List.filterMap_cons, Entry.filterMap_supply?_eq_nil plain]
        rfl
      · rw [reclaimed, List.filterMap_cons, Entry.filterMap_reclaim?_eq_nil plain,
          Entry.reclaim?, settled, source]
        cases answer <;> rfl

/-- A request obtains a buffer from the provider that serves it, or does nothing. -/
theorem allocate_does (world : World P) (allocator : Allocator) (length : Int64)
    (type : ElementType) (backend : Backend) :
    ∃ made deeds, world.Does (world.allocate allocator length type backend).2 made deeds := by
  unfold allocate
  split
  · exact does_nothing rfl
  · split
    · exact does_nothing rfl
    · exact world.obtainBuffer_does _ _ _

/-- So does a request by text. -/
theorem allocateNamed_does (world : World P) (allocator : Allocator) (length : Int64)
    (type backend : String) :
    ∃ made deeds,
      world.Does (world.allocateNamed allocator length type backend).2 made deeds := by
  unfold allocateNamed
  split
  · exact does_nothing rfl
  · split
    · exact does_nothing rfl
    · exact world.allocate_does allocator length _ _

/-- A drop does nothing to the platform unless it retires the block. -/
theorem drop_does (world : World P) (buffer : Nat) :
    ∃ made deeds, world.Does (world.drop buffer) made deeds := by
  rcases world.drop_cases buffer with
    ⟨_, same⟩ | ⟨number, _, _, equation⟩ | ⟨number, block, _, present, _, equation⟩
  · rw [same]
    exact does_nothing rfl
  · rw [equation]
    exact does_nothing rfl
  · rw [equation]
    have there : number < (world.part buffer number).blocks.length := by
      refine Nat.lt_of_lt_of_eq (List.getElem?_eq_some_iff.mp present).1 ?_
      exact (List.length_modify ..).symm
    -- The buffer is gone before the block is retired, which nobody outside notices.
    obtain ⟨made, deeds, journal, course, told, supplied, reclaimed⟩ :=
      (world.part buffer number).retire_does there { block with owners := block.owners - 1 }
    exact ⟨made, deeds, journal, course, told, supplied, reclaimed⟩

end World

/-- The world when a step sets about its work: the surroundings have changed, if it is
theirs to change. -/
def Step.onset (step : Step P) (world : World P) : World P :=
  match step with
  | .drift state => world.drift state
  | _ => world

namespace Session

/-- Every step does what it tells, from the state that it finds the platform in. One by which
the surroundings change does nothing more. -/
theorem step_does (session : Session P) (step : Step P) :
    ∃ made deeds, (step.onset session.world).Does (session.step step).world made deeds := by
  cases step with
  | drift state => exact World.does_nothing rfl
  | make registry cache =>
      exact World.does_nothing (session.world.addAllocator_outside registry cache)
  | discard number => exact World.does_nothing rfl
  | allocate number length type backend =>
      dsimp only [Session.step, Step.onset]
      split
      · exact World.does_nothing rfl
      · exact session.world.allocate_does _ length type backend
  | allocateNamed number length type backend =>
      dsimp only [Session.step, Step.onset]
      split
      · exact World.does_nothing rfl
      · exact session.world.allocateNamed_does _ length type backend
  | clone buffer =>
      dsimp only [Session.step, Step.onset]
      rw [World.clone?_eq]
      cases session.world.blockNumber? buffer <;> exact World.does_nothing rfl
  | drop buffer => exact session.world.drop_does buffer
  | write buffer index value =>
      dsimp only [Session.step, Step.onset]
      split
      · exact World.does_nothing rfl
      · next world written =>
          obtain ⟨number, _, rfl⟩ := World.write?_eq written
          exact World.does_nothing rfl

/-- What a session does to the platform, step by step. In each step the deeds lead from
the state of the platform to its next state, the entries that the step makes in the
journal agree with them, and an entry point that obtains memory gets the length that the
step requests, which is positive. -/
inductive Performs : Session P → List (Step P) → List (Deed P) → Prop
  | nil (session : Session P) : Performs session [] []
  | cons {session : Session P} {step : Step P} {steps : List (Step P)} {made : List (Entry P)}
      {deeds later : List (Deed P)}
      (does : (step.onset session.world).Does (session.step step).world made deeds)
      (asks : ∀ loaded symbol length address,
        .called loaded symbol (.alloc length address) ∈ deeds →
          step.requested? = some length ∧ 0 < length)
      (rest : Performs (session.step step) steps later) :
      Performs session (step :: steps) (deeds ++ later)

/-- A step obtains memory by the length that it requests. -/
theorem does_asks {session : Session P} {step : Step P} {made : List (Entry P)}
    {deeds : List (Deed P)}
    (does : (step.onset session.world).Does (session.step step).world made deeds)
    {loaded : LoadedLibrary P} {symbol : String} {length : Int64} {address : Nat}
    (called : .called loaded symbol (.alloc length address) ∈ deeds) :
    step.requested? = some length ∧ 0 < length := by
  obtain ⟨asked, dealings, lengths⟩ := session.step_asks step
  have journal : (session.step step).world.outside.journal =
      session.world.outside.journal ++ made := by
    refine does.journal.trans ?_
    cases step <;> rfl
  have same : asked = made.filter Entry.isDealing := by
    unfold Outside.dealings at dealings
    rw [journal, List.filter_append] at dealings
    exact (List.append_cancel_left dealings).symm
  apply lengths loaded symbol length address
  rw [same]
  exact List.mem_filter.mpr ⟨Entry.called_mem does.told called, rfl⟩

/-- **The journal is true.** Whatever a session does to the platform it does by deeds, each
carried out on the state that the one before it left, and every step writes down what it
did: the openings and calls in the journal are those that were made, in their order, and
grants and returns stand for memory that was obtained and taken back. -/
theorem run_performs (session : Session P) (steps : List (Step P)) :
    ∃ deeds, session.Performs steps deeds := by
  induction steps generalizing session with
  | nil => exact ⟨[], .nil session⟩
  | cons step steps ih =>
      obtain ⟨made, deeds, does⟩ := session.step_does step
      obtain ⟨later, rest⟩ := ih (session.step step)
      exact ⟨deeds ++ later, .cons does (fun _ _ _ _ => does_asks does) rest⟩

/-- What a session adds to the journal tells of the deeds that were done, in their order. -/
theorem Performs.told {session : Session P} {steps : List (Step P)} {deeds : List (Deed P)}
    (performs : session.Performs steps deeds) :
    (session.run steps).world.outside.journal.filterMap Entry.deed? =
      session.world.outside.journal.filterMap Entry.deed? ++ deeds.filter Deed.isEntered := by
  induction performs with
  | nil session => exact (List.append_nil _).symm
  | @cons session step steps made deeds later does _ _ ih =>
      have same : (step.onset session.world).outside.journal = session.world.outside.journal := by
        cases step <;> rfl
      refine ih.trans ?_
      rw [does.journal, same, List.filterMap_append, does.told, List.filter_append,
        List.append_assoc]

end Session

end TypedMemory
