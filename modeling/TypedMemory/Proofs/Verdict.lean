import TypedMemory.Proofs.Furnishing
import TypedMemory.Proofs.Housing
import TypedMemory.Proofs.Lengths
import TypedMemory.Proofs.Record

/-!
# The verdict on a request

When a request for a buffer is refused, and with which error. The reasons come in a
fixed order: a negative length, a backend that the registry does not resolve, a size
that no block of host memory can have, host memory that is spent; on the accelerator a
library that does not open, an entry point that the library lacks, and an entry point
that has no memory. `World.Refuses` says what each of them takes. A request is refused
for these reasons and for no others, and otherwise makes a buffer as it was asked for
(`Session.run_decides`).
-/

namespace TypedMemory

variable {P : Platform}

/-- A library does not give out an entry point, because it has no such name or because
the name stands for nothing. -/
inductive LoadedLibrary.Denies (loaded : LoadedLibrary P) (name : String) (state : P.State) :
    String → Prop
  | missing {reason : String} (missed : P.lookUp loaded.library name state = .missing reason) :
      Denies loaded name state reason
  | null (stands : P.lookUp loaded.library name state = .null) :
      Denies loaded name state "symbol resolved to a null address"

/-- The library that a request gets from a cache, and the state of the platform in which
it gets it: the library is cached, or it is opened for the request. -/
inductive Cache.Supplies (number : Nat) (cache : Cache P) (backend : Backend) (path : Path)
    (state : P.State) : LoadedLibrary P → P.State → Prop
  | cached {loaded : LoadedLibrary P} (held : cache.get? backend = some loaded) :
      Supplies number cache backend path state loaded state
  | opened {library : P.Library} {later : P.State} (missed : cache.get? backend = none)
      (opening : P.openLibrary number path state = (.ok library, later)) :
      Supplies number cache backend path state ⟨backend, path, library⟩ later

namespace World

/-- A request to an allocator that was made from a registry, with libraries from the cache
of a number, is refused with an error. Of several reasons the first counts. -/
inductive Refuses (world : World P) (registry : Registry) (cache : Nat) (length : Int64)
    (type : ElementType) : Backend → Error → Prop
  | negative {backend : Backend} (below : length.toInt < 0) :
      Refuses world registry cache length type backend
        (.invalidLength (toString length.toInt) type.name backend.name "negative length")
  | unresolved {message : String} (signed : 0 ≤ length.toInt)
      (unknown : registry.resolve .accelerator = .error (.configuration message)) :
      Refuses world registry cache length type .accelerator (.configuration message)
  /-- No block of host memory has this size. -/
  | oversized (positive : 0 < length.toInt)
      (large : 2 ^ 63 - (type.alignment : Int) < length.toInt * type.size) :
      Refuses world registry cache length type .host
        (.invalidLength (toString length.toInt) type.name "host"
          (if 2 ^ 64 ≤ length.toInt * type.size then "size overflows usize"
          else "invalid layout: invalid parameters to Layout::from_size_align"))
  | spent (positive : 0 < length.toInt)
      (fits : length.toInt * type.size ≤ 2 ^ 63 - (type.alignment : Int))
      (null : (P.hostAlloc (length.toInt.toNat * type.size) type.alignment
        world.outside.state).1 = 0) :
      Refuses world registry cache length type .host
        (.exhausted (toString length.toInt) type.name "host" "global allocator returned null")
  | unopened {path : Path} {error : Error} (signed : 0 ≤ length.toInt)
      (resolved : registry.resolve .accelerator =
        .ok ⟨.accelerator, .library path registry.stem⟩)
      (missed : (world.caches cache).get? .accelerator = none)
      (failed : (P.openLibrary cache path world.outside.state).1 = .error error) :
      Refuses world registry cache length type .accelerator error
  /-- The library lacks the entry point that obtains. -/
  | lacking {path : Path} {loaded : LoadedLibrary P} {state : P.State} {reason : String}
      (signed : 0 ≤ length.toInt)
      (resolved : registry.resolve .accelerator =
        .ok ⟨.accelerator, .library path registry.stem⟩)
      (supplied : (world.caches cache).Supplies cache .accelerator path world.outside.state
        loaded state)
      (denies : loaded.Denies (symbolName registry.stem type .alloc) state reason) :
      Refuses world registry cache length type .accelerator
        (.symbolResolution (symbolName registry.stem type .alloc) reason)
  /-- No elements are asked for, and the library lacks the entry point that releases. -/
  | stranding {path : Path} {loaded : LoadedLibrary P} {state : P.State} {routine : P.Routine}
      {reason : String} (zero : length.toInt = 0)
      (resolved : registry.resolve .accelerator =
        .ok ⟨.accelerator, .library path registry.stem⟩)
      (supplied : (world.caches cache).Supplies cache .accelerator path world.outside.state
        loaded state)
      (found : P.lookUp loaded.library (symbolName registry.stem type .alloc) state =
        .found routine)
      (denies : loaded.Denies (symbolName registry.stem type .dealloc) state reason) :
      Refuses world registry cache length type .accelerator
        (.symbolResolution (symbolName registry.stem type .dealloc) reason)
  /-- The entry point that obtains has no memory. -/
  | barren {path : Path} {loaded : LoadedLibrary P} {state : P.State} {routine : P.Routine}
      (positive : 0 < length.toInt)
      (resolved : registry.resolve .accelerator =
        .ok ⟨.accelerator, .library path registry.stem⟩)
      (supplied : (world.caches cache).Supplies cache .accelerator path world.outside.state
        loaded state)
      (found : P.lookUp loaded.library (symbolName registry.stem type .alloc) state =
        .found routine)
      (null : (P.callAlloc routine length state).1 = 0) :
      Refuses world registry cache length type .accelerator
        (.exhausted (toString length.toInt) type.name "accelerator"
          "backend allocation routine returned null")

end World

namespace LoadedLibrary

variable {loaded : LoadedLibrary P} {name reason : String} {outside : Outside P}

/-- A name is found in a library or denied for a reason. -/
theorem found_or_denies (loaded : LoadedLibrary P) (name : String) (state : P.State) :
    (∃ routine, P.lookUp loaded.library name state = .found routine) ∨
      ∃ reason, loaded.Denies name state reason := by
  cases looked : P.lookUp loaded.library name state with
  | found routine => exact .inl ⟨routine, rfl⟩
  | missing reason => exact .inr ⟨reason, .missing looked⟩
  | null => exact .inr ⟨_, .null looked⟩

/-- Looking up a name that is denied fails for that reason and leaves no trace. -/
theorem Denies.resolve (denies : loaded.Denies name outside.state reason) :
    loaded.resolve name outside = (.error (.symbolResolution name reason), outside) := by
  unfold LoadedLibrary.resolve
  cases denies with
  | missing missed => rw [missed]
  | null stands => rw [stands]

/-- Looking up a name that is found leaves the platform as it was. -/
theorem resolve_of_found {routine : P.Routine}
    (found : P.lookUp loaded.library name outside.state = .found routine) :
    ∃ after, loaded.resolve name outside = (.ok ⟨loaded, name, routine⟩, after) ∧
      after.state = outside.state := by
  unfold LoadedLibrary.resolve
  rw [found]
  exact ⟨_, rfl, rfl⟩

end LoadedLibrary

namespace Cache

variable {number : Nat} {cache : Cache P} {route : Route} {outside : Outside P}

/-- A library is had, from the cache or newly opened, or its opening fails. -/
theorem supplied_or_failed (number : Nat) (cache : Cache P) (backend : Backend) (path : Path)
    (state : P.State) :
    (∃ loaded later, cache.Supplies number backend path state loaded later) ∨
      cache.get? backend = none ∧
        ∃ error, (P.openLibrary number path state).1 = .error error := by
  cases held : cache.get? backend with
  | some loaded => exact .inl ⟨loaded, state, .cached held⟩
  | none =>
      rcases opening : P.openLibrary number path state with ⟨error | library, later⟩
      · exact .inr ⟨rfl, error, rfl⟩
      · exact .inl ⟨_, later, .opened held opening⟩

/-- A library that is to be had is what a request for it gets. -/
theorem Supplies.acquire {loaded : LoadedLibrary P} {state : P.State}
    (supplied : cache.Supplies number route.backend route.path outside.state loaded state) :
    ∃ later after, cache.acquire number route.descriptor outside = (.ok loaded, later, after) ∧
      after.state = state := by
  cases supplied with
  | cached held => exact ⟨_, _, acquire_of_cached held, (loaded.handOut_silent ..).1⟩
  | opened missed opening =>
      simp only [Cache.acquire, look, load, Route.descriptor, missed, opening]
      exact ⟨_, _, rfl, rfl⟩

/-- If the library is not cached and does not open, a request for it gets the error of the
loader. -/
theorem acquire_of_failed {error : Error} (missed : cache.get? route.backend = none)
    (failed : (P.openLibrary number route.path outside.state).1 = .error error) :
    ∃ later after,
      cache.acquire number route.descriptor outside = (.error error, later, after) := by
  rcases opening : P.openLibrary number route.path outside.state with ⟨answer, state⟩
  rw [opening] at failed
  cases failed
  simp only [acquire, look, load, Route.descriptor, missed, opening]
  exact ⟨_, _, rfl⟩

end Cache

/-! The answers of a provider of accelerator memory, for each way in which a request can
go. -/

namespace Route

variable (route : Route) {type : ElementType} {length : UInt64} {number : Nat} {stats : Stats}
  {cache : Cache P} {outside : Outside P} {loaded : LoadedLibrary P} {state : P.State}
  {routine : P.Routine} {reason : String} {error : Error}

section Prepare

/-- Without the library, blocks could not be had, for the reason that the loader gives. -/
theorem prepare_of_failed (missed : cache.get? route.backend = none)
    (failed : (P.openLibrary number route.path outside.state).1 = .error error) :
    (route.prepare type number cache outside).1 = .error error := by
  obtain ⟨later, after, acquired⟩ := Cache.acquire_of_failed missed failed
  simp only [prepare, acquired]

variable (supplied : cache.Supplies number route.backend route.path outside.state loaded state)

include supplied

/-- Without the entry point that obtains, blocks could not be had, and it is the one that is
named. -/
theorem prepare_of_lacking (denies : loaded.Denies (route.symbol type .alloc) state reason) :
    (route.prepare type number cache outside).1 =
      .error (.symbolResolution (route.symbol type .alloc) reason) := by
  obtain ⟨later, after, acquired, rfl⟩ := supplied.acquire
  simp only [prepare, acquired, denies.resolve]

/-- Without the entry point that releases, blocks could not be had either; it is named only if
the other one is there. -/
theorem prepare_of_stranding
    (found : P.lookUp loaded.library (route.symbol type .alloc) state = .found routine)
    (denies : loaded.Denies (route.symbol type .dealloc) state reason) :
    (route.prepare type number cache outside).1 =
      .error (.symbolResolution (route.symbol type .dealloc) reason) := by
  obtain ⟨later, after, acquired, rfl⟩ := supplied.acquire
  obtain ⟨outside₁, resolved, same⟩ := LoadedLibrary.resolve_of_found found
  rw [← same] at denies
  simp only [prepare, acquired, resolved, denies.resolve]

/-- With both entry points blocks could be had. -/
theorem prepare_of_found {routine' : P.Routine}
    (found : P.lookUp loaded.library (route.symbol type .alloc) state = .found routine)
    (found' : P.lookUp loaded.library (route.symbol type .dealloc) state = .found routine') :
    (route.prepare type number cache outside).1 = .ok () := by
  obtain ⟨later, after, acquired, rfl⟩ := supplied.acquire
  obtain ⟨outside₁, resolved, same⟩ := LoadedLibrary.resolve_of_found found
  rw [← same] at found'
  obtain ⟨outside₂, resolved', _⟩ := LoadedLibrary.resolve_of_found found'
  simp only [prepare, acquired, resolved, resolved']

end Prepare

section Allocate

variable (short : length.toNat < signedLimit)

include short

/-- Without the library a block is refused for the reason that the loader gives. -/
theorem allocate_of_failed (missed : cache.get? route.backend = none)
    (failed : (P.openLibrary number route.path outside.state).1 = .error error) :
    (route.allocate type length number stats cache outside).1 = .error error := by
  obtain ⟨later, after, acquired⟩ := Cache.acquire_of_failed missed failed
  simp only [allocate, reach, if_neg (Nat.not_le_of_lt short), acquired]

variable (supplied : cache.Supplies number route.backend route.path outside.state loaded state)

include supplied

/-- Without the entry point that obtains, a block is refused. -/
theorem allocate_of_lacking (denies : loaded.Denies (route.symbol type .alloc) state reason) :
    (route.allocate type length number stats cache outside).1 =
      .error (.symbolResolution (route.symbol type .alloc) reason) := by
  obtain ⟨later, after, acquired, rfl⟩ := supplied.acquire
  simp only [allocate, reach, if_neg (Nat.not_le_of_lt short), acquired, denies.resolve]

/-- With the entry point that obtains, a block is refused exactly if the address that it gives
is null. The one that releases is not looked for. -/
theorem allocate_of_found
    (found : P.lookUp loaded.library (route.symbol type .alloc) state = .found routine) :
    (route.allocate type length number stats cache outside).1 =
      if (P.callAlloc routine (Int64.ofNat length.toNat) state).1 = 0 then
        .error (.exhausted (toString length.toNat) type.name "accelerator"
          "backend allocation routine returned null")
      else .ok (P.callAlloc routine (Int64.ofNat length.toNat) state).1 := by
  obtain ⟨later, after, acquired, rfl⟩ := supplied.acquire
  obtain ⟨outside₁, resolved, same⟩ := LoadedLibrary.resolve_of_found found
  simp only [allocate, reach, if_neg (Nat.not_le_of_lt short), acquired, resolved,
    EntryPoint.callAlloc, same]
  split <;> rfl

end Allocate

end Route

namespace HostMemory

variable {type : ElementType} {length : UInt64} {stats : Stats} {outside : Outside P}

/-- Exactly the sizes above `2 ^ 63`, less the alignment, are refused. -/
theorem layout_of_large (large : signedLimit - type.alignment < length.toNat * type.size) :
    layout type length =
      .error (.invalidLength (toString length.toNat) type.name "host"
        (if wordLimit ≤ length.toNat * type.size then "size overflows usize"
        else "invalid layout: invalid parameters to Layout::from_size_align")) := by
  unfold layout
  simp only [if_pos large]
  split <;> rfl

/-- A size that leaves room for the alignment below the limit is a layout. -/
theorem layout_of_fits (fits : length.toNat * type.size ≤ signedLimit - type.alignment) :
    layout type length = .ok (length.toNat * type.size) := by
  have bounded : ¬ wordLimit ≤ length.toNat * type.size := by
    unfold wordLimit signedLimit at *
    omega
  unfold layout
  simp only [if_neg bounded, if_neg (Nat.not_lt_of_le fits)]

/-- A size beyond the limit is refused, with one reason if it does not fit a word, and another
if it does. -/
theorem allocate_of_large (large : signedLimit - type.alignment < length.toNat * type.size) :
    (allocate type length stats outside).1 =
      .error (.invalidLength (toString length.toNat) type.name "host"
        (if wordLimit ≤ length.toNat * type.size then "size overflows usize"
        else "invalid layout: invalid parameters to Layout::from_size_align")) := by
  simp only [allocate, layout_of_large large]

/-- A block whose size fits is refused exactly if the platform gives no address. -/
theorem allocate_of_fits (nonempty : length ≠ 0)
    (fits : length.toNat * type.size ≤ signedLimit - type.alignment) :
    (allocate type length stats outside).1 =
      if (P.hostAlloc (length.toNat * type.size) type.alignment outside.state).1 = 0 then
        .error (.exhausted (toString length.toNat) type.name "host"
          "global allocator returned null")
      else .ok (P.hostAlloc (length.toNat * type.size) type.alignment outside.state).1 := by
  have some : length.toNat * type.size ≠ 0 := layout_ne_zero nonempty (layout_of_fits fits)
  simp only [allocate, layout_of_fits fits, if_neg some]
  split <;> rfl

/-- No block is at address zero. -/
theorem allocate_nonzero {address : Nat}
    (granted : (allocate type length stats outside).1 = .ok address) : address ≠ 0 := by
  unfold allocate at granted
  split at granted
  · cases granted
  · split at granted
    · cases granted
      exact type.size_ne_zero
    · dsimp only at granted
      split at granted
      · cases granted
      · next nonzero =>
          cases granted
          exact nonzero

end HostMemory

/-! On its way to a provider, the length of a request passes through an unsigned word. -/

section Words

variable {length : Int64}

/-- A length that is not negative reads the same as a word. -/
theorem text_word (signed : 0 ≤ length.toInt) :
    toString (UInt64.ofNat length.toInt.toNat).toNat = toString length.toInt := by
  obtain ⟨count, same⟩ := Int.eq_ofNat_of_zero_le signed
  rw [toNat_word, same]
  rfl

/-- A length of zero is zero as a word. -/
theorem word_eq_zero (zero : length.toInt = 0) : UInt64.ofNat length.toInt.toNat = 0 := by
  rw [zero]
  rfl

/-- A positive length is not zero as a word. -/
theorem word_ne_zero (positive : 0 < length.toInt) : UInt64.ofNat length.toInt.toNat ≠ 0 := by
  intro zero
  have back := toNat_word length
  rw [zero, UInt64.toNat_zero] at back
  omega

/-- A signed length is never too long for the signed argument of an entry point. -/
theorem word_short (length : Int64) : (UInt64.ofNat length.toInt.toNat).toNat < signedLimit := by
  have bounded := Int64.toInt_lt length
  rw [toNat_word]
  unfold signedLimit
  omega

/-- The size of a block is the same, reckoned with words or with integers. -/
theorem word_size (signed : 0 ≤ length.toInt) (type : ElementType) :
    (((UInt64.ofNat length.toInt.toNat).toNat * type.size : Nat) : Int) =
      length.toInt * type.size := by
  rw [toNat_word, Int.natCast_mul, Int.toNat_of_nonneg signed]

/-- A size does not fit a word if it is two to the power of 64 or more. -/
theorem word_overflows_iff (signed : 0 ≤ length.toInt) (type : ElementType) :
    wordLimit ≤ (UInt64.ofNat length.toInt.toNat).toNat * type.size ↔
      2 ^ 64 ≤ length.toInt * type.size := by
  have size := word_size signed type
  unfold wordLimit
  omega

/-- A size is beyond the limit if it exceeds two to the power of 63 less the alignment. -/
theorem word_large_iff (signed : 0 ≤ length.toInt) (type : ElementType) :
    signedLimit - type.alignment < (UInt64.ofNat length.toInt.toNat).toNat * type.size ↔
      2 ^ 63 - (type.alignment : Int) < length.toInt * type.size := by
  have size := word_size signed type
  have small : type.alignment ≤ 8 := by cases type <;> decide
  unfold signedLimit
  omega

/-- A positive length comes back from a word unchanged. -/
theorem signed_word (positive : 0 < length.toInt) :
    Int64.ofNat (UInt64.ofNat length.toInt.toNat).toNat = length := by
  refine (signed_of_word ?_ (word_ne_zero positive)).1
  rw [Int64.lt_iff_toInt_lt, Int64.toInt_zero]
  omega

end Words

namespace World

variable {world : World P} {number cache : Nat} {type : ElementType} {error : Error}

/-- A negative length is turned down with the length itself, before anything is asked. -/
theorem allocate_of_negative {length : Int64} (negative : length < 0) (allocator : Allocator)
    (backend : Backend) :
    world.allocate allocator length type backend =
      (.error (.invalidLength (toString length.toInt) type.name backend.name "negative length"),
        world) := by
  unfold allocate
  rw [if_pos negative]

/-- A length that is not negative is asked of the provider that serves the backend. -/
theorem allocate_of_served {allocator : Allocator} {length : Int64} {backend : Backend}
    (signed : 0 ≤ length.toInt) (served : allocator.provider backend = .ok number) :
    world.allocate allocator length type backend =
      world.obtainBuffer number type (UInt64.ofNat length.toInt.toNat) := by
  have unsigned : ¬ length < 0 := by
    rw [Int64.lt_iff_toInt_lt, Int64.toInt_zero]
    exact Int.not_lt.mpr signed
  unfold allocate
  rw [if_neg unsigned, served]

/-- A buffer without elements is made if blocks could be had. -/
theorem obtainBuffer_empty :
    (world.obtainBuffer number type 0).1 =
      ((world.prepare number type).1).map fun _ => world.nextBuffer := by
  have touches := (world.prepare_touches number type).1
  unfold obtainBuffer
  rcases asked : world.prepare number type with ⟨error | _, after⟩
  · rfl
  · rw [asked] at touches
    exact congrArg Except.ok touches.nextBuffer

/-- A buffer with elements is made if a block is granted. -/
theorem obtainBuffer_nonempty {length : UInt64} (nonempty : length ≠ 0) :
    (world.obtainBuffer number type length).1 =
      ((world.request number type length).1).map fun _ => world.nextBuffer := by
  have touches := (world.request_requested number type length).1
  unfold obtainBuffer
  rw [if_neg nonempty]
  rcases asked : world.request number type length with ⟨error | _, after⟩
  · rfl
  · rw [asked] at touches
    exact congrArg Except.ok touches.nextBuffer

/-- A provider that takes a library answers as its route does. -/
theorem prepare_answer {route : Route}
    (source : (world.providers number).source = .library route cache) :
    (world.prepare number type).1 =
      (route.prepare type cache (world.caches cache) world.outside).1 := by
  simp only [prepare, source]

section Request

variable {length : UInt64}

/-- A provider of host memory answers as the host does. -/
theorem request_host_answer (source : (world.providers number).source = .host) :
    (world.request number type length).1 =
      (HostMemory.allocate type length (world.providers number).stats world.outside).1 := by
  simp only [request, source]

/-- A provider that takes a library grants what its route obtains. -/
theorem request_library_answer {route : Route}
    (source : (world.providers number).source = .library route cache) :
    (world.request number type length).1 =
      (route.allocate type length cache (world.providers number).stats (world.caches cache)
        world.outside).1 := by
  simp only [request, source]

/-- No provider grants a block at address zero. -/
theorem request_nonzero {address : Nat}
    (granted : (world.request number type length).1 = .ok address) : address ≠ 0 := by
  have requested := (world.request_requested number type length).2
  rw [granted] at requested
  cases requested with
  | hosted source _ _ _ =>
      exact HostMemory.allocate_nonzero ((request_host_answer source) ▸ granted)
  | fetched nonzero _ _ _ => exact nonzero

/-- A buffer that was obtained owns a new block, as it was asked for. -/
theorem obtainBuffer_block (orderly : world.Orderly) {buffer : Nat}
    (obtained : (world.obtainBuffer number type length).1 = .ok buffer) :
    ∃ block, (world.obtainBuffer number type length).2.block? buffer = some block ∧
      block.provider = number ∧ block.type = type ∧ block.length = length ∧ block.address ≠ 0 := by
  have added {middle : World P} (touches : world.Touches number middle) (block : Block) :
      (middle.addBlock block).2.block? middle.nextBuffer = some block := by
    have owned := blockNumber?_new ((orderly.touched touches).appendBlock block).numbered
      middle.blocks.length
    unfold block?
    rw [show (middle.addBlock block).2.blockNumber? middle.nextBuffer = _ from owned]
    exact List.getElem?_concat_length
  unfold obtainBuffer at obtained ⊢
  by_cases empty : length = 0
  · simp only [if_pos empty] at obtained ⊢
    rcases asked : world.prepare number type with ⟨error | _, middle⟩ <;>
      rw [asked] at obtained <;>
      cases obtained
    exact ⟨_, added (prepared_of asked).1 _, rfl, rfl, rfl, type.size_ne_zero⟩
  · simp only [if_neg empty] at obtained ⊢
    rcases asked : world.request number type length with ⟨error | address, middle⟩ <;>
      rw [asked] at obtained <;>
      cases obtained
    have granted : (world.request number type length).1 = .ok address := by rw [asked]
    exact ⟨_, added (requested_of asked).1 _, rfl, rfl, rfl, request_nonzero granted⟩

end Request

section Verdict

variable {length : Int64} {backend : Backend}

/-- A reason to refuse a request decides the answer. -/
theorem Refuses.answer {registry : Registry} {allocator : Allocator}
    (refuses : world.Refuses registry cache length type backend error)
    (furnishes : world.Furnishes allocator registry cache) :
    (world.allocate allocator length type backend).1 = .error error := by
  have host := furnishes.host
  cases refuses with
  | negative below =>
      have negative : length < 0 := by
        rw [Int64.lt_iff_toInt_lt, Int64.toInt_zero]
        exact below
      rw [allocate_of_negative negative]
  | unresolved signed unknown =>
      unfold allocate
      rw [furnishes.provider_unresolved unknown]
      split
      · next negative =>
          rw [Int64.lt_iff_toInt_lt, Int64.toInt_zero] at negative
          exact absurd negative (Int.not_lt.mpr signed)
      · rfl
  | oversized positive large =>
      have signed := Int.le_of_lt positive
      rw [allocate_of_served signed rfl, obtainBuffer_nonempty (word_ne_zero positive),
        request_host_answer host,
        HostMemory.allocate_of_large ((word_large_iff signed type).mpr large), text_word signed]
      simp only [word_overflows_iff signed type]
      rfl
  | spent positive fits null =>
      have signed := Int.le_of_lt positive
      have small := Nat.le_of_not_lt (mt (word_large_iff signed type).mp (Int.not_lt.mpr fits))
      rw [allocate_of_served signed rfl, obtainBuffer_nonempty (word_ne_zero positive),
        request_host_answer host, HostMemory.allocate_of_fits (word_ne_zero positive) small,
        text_word signed, toNat_word, if_pos null]
      rfl
  | @unopened path _ signed resolved missed failed =>
      obtain ⟨number, served, source⟩ := furnishes.provider_accelerator resolved
      rw [allocate_of_served signed served]
      rcases Int.lt_or_eq_of_le signed with positive | zero
      · rw [obtainBuffer_nonempty (word_ne_zero positive), request_library_answer source,
          (registry.route path).allocate_of_failed (word_short length) missed failed]
        rfl
      · rw [word_eq_zero zero.symm, obtainBuffer_empty, prepare_answer source,
          (registry.route path).prepare_of_failed missed failed]
        rfl
  | @lacking path _ _ _ signed resolved supplied denies =>
      obtain ⟨number, served, source⟩ := furnishes.provider_accelerator resolved
      rw [allocate_of_served signed served]
      rcases Int.lt_or_eq_of_le signed with positive | zero
      · rw [obtainBuffer_nonempty (word_ne_zero positive), request_library_answer source,
          (registry.route path).allocate_of_lacking (word_short length) supplied denies]
        rfl
      · rw [word_eq_zero zero.symm, obtainBuffer_empty, prepare_answer source,
          (registry.route path).prepare_of_lacking supplied denies]
        rfl
  | @stranding path _ _ _ _ zero resolved supplied found denies =>
      obtain ⟨number, served, source⟩ := furnishes.provider_accelerator resolved
      rw [allocate_of_served (Int.le_of_eq zero.symm) served, word_eq_zero zero,
        obtainBuffer_empty, prepare_answer source,
        (registry.route path).prepare_of_stranding supplied found denies]
      rfl
  | @barren path _ _ _ positive resolved supplied found null =>
      obtain ⟨number, served, source⟩ := furnishes.provider_accelerator resolved
      rw [allocate_of_served (Int.le_of_lt positive) served,
        obtainBuffer_nonempty (word_ne_zero positive), request_library_answer source,
        (registry.route path).allocate_of_found (word_short length) supplied found,
        signed_word positive, if_pos null, text_word (Int.le_of_lt positive)]
      rfl

/-- A request that there is no reason to refuse is served. -/
theorem allocate_of_not_refuses {registry : Registry} {allocator : Allocator}
    (furnishes : world.Furnishes allocator registry cache)
    (served : ∀ error, ¬ world.Refuses registry cache length type backend error) :
    (world.allocate allocator length type backend).1 = .ok world.nextBuffer := by
  have signed : 0 ≤ length.toInt := by
    by_contra below
    exact served _ (.negative (Int.not_le.mp below))
  cases backend with
  | host =>
      have host := furnishes.host
      rw [allocate_of_served signed rfl]
      rcases Int.lt_or_eq_of_le signed with positive | zero
      · have fits := Int.not_lt.mp fun large => served _ (.oversized positive large)
        have small := Nat.le_of_not_lt (mt (word_large_iff signed type).mp (Int.not_lt.mpr fits))
        rw [obtainBuffer_nonempty (word_ne_zero positive), request_host_answer host,
          HostMemory.allocate_of_fits (word_ne_zero positive) small, toNat_word,
          if_neg fun null => served _ (.spent positive fits null)]
        rfl
      · rw [word_eq_zero zero.symm, obtainBuffer_empty, prepare_of_host host]
        rfl
  | accelerator =>
      rcases registry.resolve_accelerator_cases with ⟨message, unknown⟩ | ⟨path, resolved⟩
      · exact (served _ (.unresolved signed unknown)).elim
      obtain ⟨number, provided, source⟩ := furnishes.provider_accelerator resolved
      rw [allocate_of_served signed provided]
      rcases (world.caches cache).supplied_or_failed cache .accelerator path world.outside.state
        with ⟨loaded, state, supplied⟩ | ⟨missed, error, failed⟩
      · rcases loaded.found_or_denies (symbolName registry.stem type .alloc) state with
          ⟨routine, found⟩ | ⟨reason, denies⟩
        · rcases Int.lt_or_eq_of_le signed with positive | zero
          · rw [obtainBuffer_nonempty (word_ne_zero positive), request_library_answer source,
              (registry.route path).allocate_of_found (word_short length) supplied found,
              signed_word positive,
              if_neg fun null => served _ (.barren positive resolved supplied found null)]
            rfl
          · rcases loaded.found_or_denies (symbolName registry.stem type .dealloc) state with
              ⟨routine', found'⟩ | ⟨reason, denies⟩
            · rw [word_eq_zero zero.symm, obtainBuffer_empty, prepare_answer source,
                (registry.route path).prepare_of_found supplied found found']
              rfl
            · exact (served _ (.stranding zero.symm resolved supplied found denies)).elim
        · exact (served _ (.lacking signed resolved supplied denies)).elim
      · exact (served _ (.unopened signed resolved missed failed)).elim

/-- A request is refused exactly for the reasons there are. -/
theorem Furnishes.allocate_error_iff {registry : Registry} {allocator : Allocator}
    (furnishes : world.Furnishes allocator registry cache) :
    (world.allocate allocator length type backend).1 = .error error ↔
      world.Refuses registry cache length type backend error := by
  refine ⟨?_, fun refuses => refuses.answer furnishes⟩
  intro failed
  by_cases refused : ∃ other, world.Refuses registry cache length type backend other
  · obtain ⟨other, refuses⟩ := refused
    cases (refuses.answer furnishes).symm.trans failed
    exact refuses
  · have served := allocate_of_not_refuses furnishes (not_exists.mp refused)
    cases served.symm.trans failed

/-- The buffer that serves a request is as it was asked for. -/
theorem Furnishes.allocate_block {registry : Registry} {allocator : Allocator}
    (furnishes : world.Furnishes allocator registry cache) (orderly : world.Orderly) {buffer : Nat}
    (made : (world.allocate allocator length type backend).1 = .ok buffer) :
    let after := (world.allocate allocator length type backend).2
    ∃ block, after.block? buffer = some block ∧ (block.length.toNat : Int) = length.toInt ∧
      block.type = type ∧ after.backendOf block = backend ∧ block.address ≠ 0 := by
  have signed : 0 ≤ length.toInt := by
    by_contra below
    cases made.symm.trans (Refuses.answer (.negative (Int.not_le.mp below)) furnishes)
  cases served : allocator.provider backend with
  | error error =>
      unfold allocate at made
      rw [served] at made
      split at made <;> cases made
  | ok number =>
      rw [allocate_of_served signed served] at made ⊢
      obtain ⟨block, owned, rfl, rfl, measured, nonzero⟩ := obtainBuffer_block orderly made
      have known := furnishes.known.provider served
      have moved : world.Move (fun _ => True) (world.obtainBuffer block.provider block.type _).2 :=
        world.obtainBuffer_move block.type (UInt64.ofNat length.toInt.toNat) known
      refine ⟨block, owned, ?_, rfl, ?_, nonzero⟩
      · rw [measured, toNat_word]
        exact Int.toNat_of_nonneg signed
      · unfold backendOf Provider.backend
        rw [moved.extends.source _ known]
        exact furnishes.provider_backend served

/-- An error of an allocation says how much of what was asked of whom, unless it is the
loader's own. -/
theorem Refuses.message {registry : Registry} {message : String} {refusal : Refusal}
    (refuses : world.Refuses registry cache length type backend (.allocation message refusal)) :
    (∃ reason, message = "cannot allocate " ++ toString length.toInt ++ " x " ++ type.name ++
      " on " ++ backend.name ++ ": " ++ reason) ∨
    ∃ path, registry.resolve .accelerator = .ok ⟨.accelerator, .library path registry.stem⟩ ∧
      (P.openLibrary cache path world.outside.state).1 = .error (.allocation message refusal) := by
  cases refuses with
  | negative | oversized | spent | barren => exact .inl ⟨_, rfl⟩
  | unopened _ resolved _ failed => exact .inr ⟨_, resolved, failed⟩

end Verdict

end World

namespace Session

/-- **Decision of a request.** Whatever was done before, an allocator refuses a request
exactly for the reasons there are, the first of them first, and says which. If there is
none, it makes a buffer of the length, the type and the backend that were asked for, at an
address that is not zero. -/
theorem run_decides (state : P.State) (earlier later : List (Step P)) (registry : Registry)
    (cache : Nat) (allocator : Allocator)
    (held : ((start state).run (earlier ++ .make registry cache :: later)).allocators
      ((start state).run earlier).nextAllocator = some allocator)
    (length : Int64) (type : ElementType) (backend : Backend) :
    let world := ((start state).run (earlier ++ .make registry cache :: later)).world
    let answer := world.allocate allocator length type backend
    (∀ error, answer.1 = .error error ↔
      world.Refuses registry cache length type backend error) ∧
    ((∀ error, ¬ world.Refuses registry cache length type backend error) →
      ∃ buffer block, answer.1 = .ok buffer ∧ answer.2.block? buffer = some block ∧
        (block.length.toNat : Int) = length.toInt ∧ block.type = type ∧
        answer.2.backendOf block = backend ∧ block.address ≠ 0) ∧
    ∀ message refusal, answer.1 = .error (.allocation message refusal) →
      (∃ reason, message = "cannot allocate " ++ toString length.toInt ++ " x " ++ type.name ++
        " on " ++ backend.name ++ ": " ++ reason) ∨
      ∃ path, registry.resolve .accelerator = .ok ⟨.accelerator, .library path registry.stem⟩ ∧
        (P.openLibrary cache path world.outside.state).1 =
          .error (.allocation message refusal) := by
  intro world answer
  have furnishes := furnished_run held
  have orderly := (run_reachable_any state (earlier ++ .make registry cache :: later)).owned.orderly
  have decided (error : Error) : answer.1 = .error error ↔
      world.Refuses registry cache length type backend error :=
    furnishes.allocate_error_iff
  refine ⟨decided, ?_, ?_⟩
  · intro served
    have made := World.allocate_of_not_refuses furnishes served
    obtain ⟨block, owned, length', type', backend', nonzero⟩ :=
      furnishes.allocate_block orderly made
    exact ⟨_, block, made, owned, length', type', backend', nonzero⟩
  · intro message refusal failed
    exact ((decided _).mp failed).message

open Simulation

/-- A library that lacks some entry points, and an allocator that uses it. -/
def sparse : Session Machine.platform :=
  (start (P := Machine.platform) {}).run
    ([] ++ .make ⟨some Linker.library, "", "partial_"⟩ 0 :: [.allocate 0 3 .int8 .accelerator])

/-- A request for no elements is refused because the entry point that releases is missing, and
one for five elements is served. -/
theorem sparse_decides :
    let allocator : Allocator := ⟨⟨some Linker.library, "", "partial_"⟩, 0, some 1⟩
    sparse.allocators 0 = some allocator ∧
    sparse.world.Refuses allocator.registry 0 0 .float32 .accelerator
      (.symbolResolution "partial_f_dealloc"
        "./libkernels.so: undefined symbol: partial_f_dealloc") ∧
    ∃ buffer block,
      (sparse.world.allocate allocator 5 .float32 .accelerator).1 = .ok buffer ∧
      (sparse.world.allocate allocator 5 .float32 .accelerator).2.block? buffer = some block ∧
      (block.length.toNat : Int) = 5 ∧ block.type = .float32 ∧
      (sparse.world.allocate allocator 5 .float32 .accelerator).2.backendOf block = .accelerator ∧
      block.address ≠ 0 := by
  intro allocator
  have held : sparse.allocators 0 = some allocator := by decide +kernel
  have decides := run_decides _ _ _ _ 0 allocator held
  refine ⟨held, ((decides 0 .float32 .accelerator).1 _).mp (by decide +kernel), ?_⟩
  obtain ⟨decided, serves, _⟩ := decides 5 .float32 .accelerator
  have served : (sparse.world.allocate allocator 5 .float32 .accelerator).1 = .ok 1 := by
    decide +kernel
  refine serves fun error refuses => ?_
  cases served.symm.trans ((decided error).mpr refuses)

end Session

end TypedMemory
