import TypedMemory.Proofs.Agreement

/-!
# What dealings leave on record

Asking for a library and looking an entry point up may leave remarks in the journal: that
the library came from another path, that the entry point was found. What else the journal
says is the record. For each dealing with a provider this module says what it adds to the
record: the opening of a library, if it had to be opened, the call of an entry point, and
the report of what was granted or taken back.
-/

namespace TypedMemory

variable {P : Platform}

/-- Whether an entry only remarks on a library that was handed out, or on an entry point
that was found. -/
def Entry.isRemark : Entry P → Bool
  | .reported event => event.level = .warn ∨ event.message = "resolved entry point"
  | _ => false

namespace Outside

/-- The journal without the remarks. -/
def record (outside : Outside P) : List (Entry P) :=
  outside.journal.filter fun entry => !entry.isRemark

/-- An entry that is no remark is put on record. -/
theorem record_enter (outside : Outside P) {entry : Entry P} (told : entry.isRemark = false) :
    (outside.enter entry).record = outside.record ++ [entry] := by
  unfold record enter
  rw [List.filter_append, List.filter_cons_of_pos (by rw [told]; rfl), List.filter_nil]

/-- A remark is not put on record. -/
theorem record_enter_remark (outside : Outside P) {entry : Entry P}
    (remark : entry.isRemark = true) : (outside.enter entry).record = outside.record := by
  unfold record enter
  rw [List.filter_append, List.filter_cons_of_neg (by simp [remark]), List.filter_nil,
    List.append_nil]

end Outside

namespace LoadedLibrary

/-- Handing a library out is remarked on at most. -/
theorem handOut_record (loaded : LoadedLibrary P) (path : Path) (outside : Outside P) :
    (loaded.handOut path outside).record = outside.record := by
  unfold handOut
  split
  · rfl
  · exact outside.record_enter_remark rfl

/-- Looking a name up is remarked on at most. -/
theorem resolve_record (loaded : LoadedLibrary P) (name : String) (outside : Outside P) :
    (loaded.resolve name outside).2.record = outside.record := by
  unfold resolve
  split
  · rfl
  · rfl
  · exact outside.record_enter_remark rfl

end LoadedLibrary

/-- What a request for a library makes of the cache, and what it puts on record: nothing
if the library is cached, else the attempt to open it. -/
inductive Cache.Gains (number : Nat) (cache : Cache P) (backend : Backend) (path : Path)
    (state : P.State) : Cache P → List (Entry P) → Prop
  | none : Gains number cache backend path state cache []
  | failure {error : Error} (missed : cache.get? backend = none)
      (failed : (P.openLibrary number path state).1 = .error error) :
      Gains number cache backend path state cache
        [.opened number backend path false,
          .reported ⟨.error, "failed to load kernels library",
            [("library", .text path.display), ("error", .text error.message)]⟩]
  | library {library : P.Library} (missed : cache.get? backend = none)
      (opened : (P.openLibrary number path state).1 = .ok library) :
      Gains number cache backend path state
        { libraries := cache.libraries ++ [⟨backend, path, library⟩], loads := cache.loads + 1 }
        [.opened number backend path true,
          .reported ⟨.info, "loaded kernels library",
            [("backend", .text backend.name), ("library", .text path.display)]⟩]

/-- A request for a library puts the attempt to open it on record, if there is one. -/
theorem Cache.acquire_gains (number : Nat) (cache : Cache P) (route : Route)
    (outside : Outside P) :
    ∃ opened,
      cache.Gains number route.backend route.path outside.state
        (cache.acquire number route.descriptor outside).2.1 opened ∧
      (cache.acquire number route.descriptor outside).2.2.record = outside.record ++ opened := by
  cases held : cache.get? route.backend with
  | some loaded =>
      rw [acquire_of_cached held]
      exact ⟨[], .none, (loaded.handOut_record ..).trans (List.append_nil _).symm⟩
  | none =>
      have asked : cache.acquire number route.descriptor outside =
          cache.load number route.backend route.path outside := by
        simp only [acquire, look, Route.descriptor, held]
      rw [asked]
      rcases load_cases number cache route.backend route.path outside with
        ⟨loaded, cached, _⟩ | ⟨missed, error, state, opening, equation⟩ |
          ⟨missed, library, state, opening, equation⟩
      · cases held.symm.trans cached
      · rw [equation]
        refine ⟨_, .failure missed (by rw [opening]), ?_⟩
        refine (Outside.record_enter _ rfl).trans ?_
        rw [Outside.record_enter _ rfl, List.append_assoc]
        rfl
      · rw [equation]
        refine ⟨_, .library missed (by rw [opening]), ?_⟩
        refine (Outside.record_enter _ rfl).trans ?_
        rw [Outside.record_enter _ rfl, List.append_assoc]
        rfl

namespace EntryPoint

/-- A call that obtains puts itself on record, with the address. -/
theorem callAlloc_record (entry : EntryPoint P) (length : Int64) (outside : Outside P) :
    (entry.callAlloc length outside).2.record = outside.record ++
      [.called entry.loaded entry.name (.alloc length (entry.callAlloc length outside).1)] :=
  Outside.record_enter _ rfl

/-- A call that releases puts itself on record. -/
theorem callDealloc_record (entry : EntryPoint P) (address : Nat) (outside : Outside P) :
    (entry.callDealloc address outside).record = outside.record ++
      [.called entry.loaded entry.name (.dealloc address)] :=
  Outside.record_enter _ rfl

end EntryPoint

namespace Route

/-- Making sure that blocks could be had puts only the opening on record. -/
theorem prepare_gains (route : Route) (type : ElementType) (number : Nat) (cache : Cache P)
    (outside : Outside P) :
    ∃ opened,
      cache.Gains number route.backend route.path outside.state
        (route.prepare type number cache outside).2.1 opened ∧
      (route.prepare type number cache outside).2.2.record = outside.record ++ opened := by
  obtain ⟨opened, gains, recorded⟩ := cache.acquire_gains number route outside
  unfold prepare
  rcases asked : cache.acquire number route.descriptor outside with ⟨error | loaded, after, later⟩
  · rw [asked] at gains recorded
    exact ⟨opened, gains, recorded⟩
  · rw [asked] at gains recorded
    have first := loaded.resolve_record (route.symbol type .alloc) later
    rcases looked : loaded.resolve (route.symbol type .alloc) later with ⟨error | entry, outside₁⟩
    · rw [looked] at first
      simp only [looked]
      exact ⟨opened, gains, first.trans recorded⟩
    · rw [looked] at first
      have second := loaded.resolve_record (route.symbol type .dealloc) outside₁
      simp only [looked]
      rcases again : loaded.resolve (route.symbol type .dealloc) outside₁ with
        ⟨error | entry, outside₂⟩ <;>
        rw [again] at second <;>
        exact ⟨opened, gains, second.trans (first.trans recorded)⟩

/-- Reaching for an entry point puts only the opening on record. -/
theorem reach_gains (route : Route) (type : ElementType) (operation : Operation) (number : Nat)
    (cache : Cache P) (outside : Outside P) :
    ∃ opened,
      cache.Gains number route.backend route.path outside.state
        (route.reach type operation number cache outside).2.1 opened ∧
      (route.reach type operation number cache outside).2.2.record = outside.record ++ opened := by
  obtain ⟨opened, gains, recorded⟩ := cache.acquire_gains number route outside
  unfold reach
  rcases asked : cache.acquire number route.descriptor outside with ⟨error | loaded, after, later⟩
  · rw [asked] at gains recorded
    exact ⟨opened, gains, recorded⟩
  · rw [asked] at gains recorded
    exact ⟨opened, gains, (loaded.resolve_record ..).trans recorded⟩

/-- How a request for accelerator memory is answered, counted and recorded, once the
library was asked for. -/
inductive Granting (route : Route) (type : ElementType) (length : UInt64) (stats : Stats) :
    Except Error Nat → Stats → List (Entry P) → Prop
  | refused {error : Error} : Granting route type length stats (.error error) stats []
  | barren {error : Error} {loaded : LoadedLibrary P} :
      Granting route type length stats (.error error) stats
        [.called loaded (route.symbol type .alloc) (.alloc (Int64.ofNat length.toNat) 0)]
  | granted {address : Nat} {loaded : LoadedLibrary P} {fields : List (String × FieldValue)} :
      Granting route type length stats (.ok address)
        (stats.recordAllocation (charge type length))
        [.called loaded (route.symbol type .alloc) (.alloc (Int64.ofNat length.toNat) address),
          .reported ⟨.debug, "accelerator allocation", fields⟩]

/-- A request for accelerator memory puts on record the opening, if any, and then what was
granted. -/
theorem allocate_granting (route : Route) (type : ElementType) (length : UInt64) (number : Nat)
    (stats : Stats) (cache : Cache P) (outside : Outside P) :
    ∃ answer stats' later after opened made,
      route.allocate type length number stats cache outside = (answer, stats', later, after) ∧
      cache.Gains number route.backend route.path outside.state later opened ∧
      route.Granting type length stats answer stats' made ∧
      after.record = outside.record ++ opened ++ made := by
  unfold allocate
  split
  · exact ⟨_, _, _, _, [], [], rfl, .none, .refused,
      ((List.append_nil _).trans (List.append_nil _)).symm⟩
  · obtain ⟨opened, gains, recorded⟩ := route.reach_gains type .alloc number cache outside
    have reached := route.reach_reached type .alloc number cache outside
    rcases asked : route.reach type .alloc number cache outside with ⟨error | entry, later, after⟩
    · rw [asked] at gains recorded
      exact ⟨_, _, _, _, opened, [], rfl, gains, .refused,
        recorded.trans (List.append_nil _).symm⟩
    · rw [asked] at gains recorded reached
      have noted := entry.callAlloc_record (Int64.ofNat length.toNat) after
      rw [reached.named entry rfl] at noted
      rcases called : entry.callAlloc (Int64.ofNat length.toNat) after with ⟨address, outside'⟩
      rw [called] at noted
      by_cases null : address = 0
      · subst null
        simp only [called, ↓reduceIte]
        exact ⟨_, _, _, _, opened, _, rfl, gains, .barren, recorded ▸ noted⟩
      · simp only [called, if_neg null]
        have told := congrArg (· ++ [.reported ⟨.debug, "accelerator allocation",
          [("dtype", .text type.name), ("length", .count length.toNat),
            ("ptr", .text (Outline.shortAddress address))]⟩]) noted
        rw [recorded, List.append_assoc] at told
        exact ⟨_, _, _, _, opened, _, rfl, gains, .granted,
          (Outside.record_enter _ rfl).trans told⟩

/-- How a return of accelerator memory is answered, counted and recorded, once the
library was asked for. -/
inductive Taking (route : Route) (type : ElementType) (address : Nat) (length : UInt64)
    (stats : Stats) : Except Error Unit → Stats → List (Entry P) → Prop
  | unreached {error : Error} :
      Taking route type address length stats (.error error) stats.recordFailedRelease []
  | taken {loaded : LoadedLibrary P} {fields : List (String × FieldValue)} :
      Taking route type address length stats (.ok ()) (stats.recordRelease (charge type length))
        [.called loaded (route.symbol type .dealloc) (.dealloc address),
          .reported ⟨.debug, "accelerator release", fields⟩]

/-- A return of accelerator memory puts on record the opening, if any, and then what was taken
back. -/
theorem deallocate_taking (route : Route) (type : ElementType) (address : Nat) (length : UInt64)
    (number : Nat) (stats : Stats) (cache : Cache P) (outside : Outside P) :
    ∃ answer stats' later after opened made,
      route.deallocate type address length number stats cache outside =
        (answer, stats', later, after) ∧
      cache.Gains number route.backend route.path outside.state later opened ∧
      route.Taking type address length stats answer stats' made ∧
      after.record = outside.record ++ opened ++ made := by
  obtain ⟨opened, gains, recorded⟩ := route.reach_gains type .dealloc number cache outside
  have reached := route.reach_reached type .dealloc number cache outside
  unfold deallocate
  rcases asked : route.reach type .dealloc number cache outside with ⟨error | entry, later, after⟩
  · rw [asked] at gains recorded
    exact ⟨_, _, _, _, opened, [], rfl, gains, .unreached,
      recorded.trans (List.append_nil _).symm⟩
  · rw [asked] at gains recorded reached
    have noted := entry.callDealloc_record address after
    rw [reached.named entry rfl] at noted
    have told := congrArg (· ++ [.reported ⟨.debug, "accelerator release",
      [("dtype", .text type.name), ("length", .count length.toNat),
        ("ptr", .text (Outline.shortAddress address))]⟩]) noted
    rw [recorded, List.append_assoc] at told
    exact ⟨_, _, _, _, opened, _, rfl, gains, .taken, (Outside.record_enter _ rfl).trans told⟩

end Route

namespace HostMemory

/-- How a request for host memory is answered, counted and recorded. -/
inductive Granting (type : ElementType) (length : UInt64) (stats : Stats) (outside : Outside P) :
    Except Error Nat → Stats → Outside P → Prop
  | refused {error : Error} : Granting type length stats outside (.error error) stats outside
  | spent {error : Error} {size : Nat} {state : P.State}
      (null : P.hostAlloc size type.alignment outside.state = (0, state)) :
      Granting type length stats outside (.error error) stats { outside with state }
  /-- A block without elements is granted without a report. -/
  | vacant {address : Nat} (empty : length = 0) :
      Granting type length stats outside (.ok address)
        (stats.recordAllocation (Route.charge type length)) outside
  | granted {address : Nat} {fields : List (String × FieldValue)} {after : Outside P}
      (recorded : after.record =
        outside.record ++ [.reported ⟨.debug, "host allocation", fields⟩]) :
      Granting type length stats outside (.ok address)
        (stats.recordAllocation (Route.charge type length)) after

/-- The host refuses a block, has nothing to grant for one without elements, or asks the
platform and reports what it grants. -/
theorem allocate_granting (type : ElementType) (length : UInt64) (stats : Stats)
    (outside : Outside P) :
    ∃ answer stats' after, allocate type length stats outside = (answer, stats', after) ∧
      Granting type length stats outside answer stats' after := by
  unfold allocate
  cases sized : layout type length with
  | error error => exact ⟨_, _, _, rfl, .refused⟩
  | ok bytes =>
      have charged := charge_of_layout sized
      by_cases none : bytes = 0
      · have empty : length = 0 := by
          rw [(layout_ok sized).1, Nat.mul_eq_zero, or_iff_left type.size_ne_zero] at none
          exact UInt64.toNat_inj.mp none
        subst none
        exact ⟨_, _, _, rfl, charged ▸ .vacant empty⟩
      · rcases obtained : P.hostAlloc bytes type.alignment outside.state with ⟨address, state⟩
        simp only [if_neg none, obtained]
        by_cases null : address = 0
        · subst null
          exact ⟨_, _, _, rfl, .spent obtained⟩
        · rw [if_neg null]
          exact ⟨_, _, _, rfl, charged ▸ .granted (Outside.record_enter _ rfl)⟩

/-- Host memory of a known size is taken back. -/
theorem deallocate_taking {type : ElementType} {length : UInt64} {bytes : Nat}
    (sized : layout type length = .ok bytes) (address : Nat) (stats : Stats)
    (outside : Outside P) :
    ∃ after fields,
      deallocate type address length stats outside =
        (.ok (), stats.recordRelease (Route.charge type length), after) ∧
      after.record = outside.record ++ [.reported ⟨.debug, "host release", fields⟩] := by
  unfold deallocate
  rw [sized, charge_of_layout sized]
  exact ⟨_, _, rfl, Outside.record_enter _ rfl⟩

end HostMemory

end TypedMemory
