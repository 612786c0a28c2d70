import Mathlib.Control.Monad.Basic
import TypedMemory.Proofs.Counterpart

/-!
# Memories that do not interfere

A program has buffers of host memory and of accelerator memory, from any number of
allocators. What it does with the ones does not depend on what it does with the
others. Leave out all errands that concern one memory: the errands that are left come
to what they came to, and the counters of the other memory are the same
(`Cabinet.run_isolated`). For the accelerator the caches are the same too, and so is
every opening and every call.

To leave errands out without changing the ones that are left, an errand names a buffer
by its memory and its place among the buffers of that memory, in the order in which
they were made.
-/

namespace TypedMemory

variable {P : Platform}

/-- One thing that a program does with allocators and buffers. -/
inductive Errand (P : Platform) where
  | drift (state : P.State)
  | make (registry : Registry) (cache : Nat)
  | discard (allocator : Nat)
  | allocate (allocator : Nat) (length : Int64) (type : ElementType) (backend : Backend)
  | allocateNamed (allocator : Nat) (length : Int64) (type backend : String)
  | clone (backend : Backend) (place : Nat)
  | drop (backend : Backend) (place : Nat)

/-- The other one of the two memories. -/
def Backend.other : Backend → Backend
  | host => accelerator
  | accelerator => host

theorem Backend.other_ne (memory : Backend) : memory.other ≠ memory := by
  cases memory <;> nofun

/-- What is not the other memory is the memory itself. -/
theorem Backend.eq_of_ne_other {memory named : Backend} (spared : named ≠ memory.other) :
    named = memory := by
  cases memory <;> cases named <;> first | rfl | exact (spared rfl).elim

namespace Errand

/-- The memory that an errand concerns. Allocators are for both memories, and a text
that names no backend is for none. -/
def memory? : Errand P → Option Backend
  | .allocate _ _ _ backend => some backend
  | .allocateNamed _ _ _ backend => (Backend.parse backend).toOption
  | .clone backend _ => some backend
  | .drop backend _ => some backend
  | .drift _ | .make _ _ | .discard _ => none

/-- Whether an errand does not concern a memory. -/
def spares (memory : Backend) (errand : Errand P) : Bool :=
  errand.memory? ≠ some memory

/-- An errand that spares the other memory concerns no memory but this one. -/
theorem own_of_spares {memory : Backend} {errand : Errand P}
    (spared : errand.spares memory.other = true) (named : Backend)
    (concerned : errand.memory? = some named) : named = memory := by
  refine Backend.eq_of_ne_other fun same => of_decide_eq_true spared ?_
  rw [concerned, same]

/-- An errand that does not spare a memory concerns it. -/
theorem concerned_of_not_spares {memory : Backend} {errand : Errand P}
    (unspared : ¬ errand.spares memory = true) : errand.memory? = some memory := by
  by_contra spared
  exact unspared (decide_eq_true spared)

/-- An errand by text concerns the memory that the text names. -/
theorem memory?_allocateNamed {number : Nat} {length : Int64} {type backend : String}
    {named : Backend} :
    (allocateNamed number length type backend : Errand P).memory? = some named ↔
      Backend.parse backend = .ok named := by
  change (Backend.parse backend).toOption = some named ↔ _
  cases Backend.parse backend <;> simp [Except.toOption]

end Errand

/-- A session, and the numbers of the buffers that were made, by memory. -/
structure Cabinet (P : Platform) where
  session : Session P
  shelf : Backend → List Nat := fun _ => []

namespace Cabinet

def start (state : P.State) : Cabinet P := { session := .start state }

/-- The step that an errand is, if the buffer that it names was made. -/
def step? (cabinet : Cabinet P) : Errand P → Option (Step P)
  | .drift state => some (.drift state)
  | .make registry cache => some (.make registry cache)
  | .discard allocator => some (.discard allocator)
  | .allocate allocator length type backend => some (.allocate allocator length type backend)
  | .allocateNamed allocator length type backend =>
      some (.allocateNamed allocator length type backend)
  | .clone backend place => (cabinet.shelf backend)[place]?.map .clone
  | .drop backend place => (cabinet.shelf backend)[place]?.map .drop

/-- The cabinet after an errand. A buffer that was made goes on the shelf of its
memory. -/
def next (cabinet : Cabinet P) (errand : Errand P) : Cabinet P :=
  match cabinet.step? errand with
  | none => cabinet
  | some step =>
      { session := cabinet.session.step step
        shelf := fun memory =>
          if errand.memory? = some memory then
            cabinet.shelf memory ++ (cabinet.session.made step).toList
          else cabinet.shelf memory }

def run (cabinet : Cabinet P) (errands : List (Errand P)) : Cabinet P :=
  errands.foldl next cabinet

/-- What an errand comes to. -/
def result (cabinet : Cabinet P) (errand : Errand P) : Option (Except Error Block) :=
  (cabinet.step? errand).bind cabinet.session.result

/-- Some errands, each with what it comes to. -/
def results (cabinet : Cabinet P) :
    List (Errand P) → List (Errand P × Option (Except Error Block))
  | [] => []
  | errand :: errands =>
      (errand, cabinet.result errand) :: (cabinet.next errand).results errands

/-- Results as they are compared. -/
def sights (memory : Backend) (results : List (Errand P × Option (Except Error Block))) :
    List (Errand P × Option (Except Error Block)) :=
  results.map fun told => (told.1, sight memory told.2)

variable {view : Outlook P} {memory other : Backend} {full part part' : Cabinet P}

/-- An errand without a step does nothing. -/
theorem next_of_none {cabinet : Cabinet P} {errand : Errand P}
    (absent : cabinet.step? errand = none) : cabinet.next errand = cabinet := by
  unfold next
  rw [absent]

/-- An errand with a step takes it. -/
theorem session_next {cabinet : Cabinet P} {errand : Errand P} {step : Step P}
    (taken : cabinet.step? errand = some step) :
    (cabinet.next errand).session = cabinet.session.step step := by
  unfold next
  rw [taken]

/-- A new buffer goes to the shelf of the memory that the errand concerns. -/
theorem shelf_next {cabinet : Cabinet P} {errand : Errand P} {step : Step P}
    (taken : cabinet.step? errand = some step) (memory : Backend) :
    (cabinet.next errand).shelf memory =
      if errand.memory? = some memory then
        cabinet.shelf memory ++ (cabinet.session.made step).toList
      else cabinet.shelf memory := by
  unfold next
  rw [taken]

/-- An errand for no memory makes no buffer. -/
theorem made_of_no_memory {cabinet : Cabinet P} {errand : Errand P} {step : Step P}
    (taken : cabinet.step? errand = some step) (nowhere : errand.memory? = none) :
    cabinet.session.made step = none := by
  cases errand with
  | allocate | clone | drop => cases nowhere
  | drift | make | discard =>
      cases taken
      rfl
  | allocateNamed number length type backend =>
      cases taken
      cases held : cabinet.session.allocators number with
      | none => exact (Session.idle_request rfl held).made
      | some allocator =>
          rw [(Session.answers_request rfl held).made]
          unfold World.allocateNamed
          cases read : Backend.parse backend with
          | ok named => cases nowhere.symm.trans (Errand.memory?_allocateNamed.mpr read)
          | error error => rfl

/-- The buffers on a shelf live in the memory of that shelf. -/
structure Sorted (cabinet : Cabinet P) : Prop where
  proper : cabinet.session.Proper
  shelved : ∀ memory, ∀ buffer ∈ cabinet.shelf memory, cabinet.session.world.Houses memory buffer

theorem start_sorted (state : P.State) : (start state).Sorted :=
  ⟨Session.start_proper state, nofun⟩

/-- A buffer that an errand makes lives in the memory that the errand concerns. -/
theorem Sorted.made {cabinet : Cabinet P} (sorted : cabinet.Sorted) {errand : Errand P}
    {step : Step P} (taken : cabinet.step? errand = some step)
    (concerned : errand.memory? = some memory) {buffer : Nat}
    (made : cabinet.session.made step = some buffer) :
    (cabinet.session.step step).world.Houses memory buffer := by
  have proper := sorted.proper
  cases errand with
  | drift | make | discard => cases concerned
  | allocate number length type backend =>
      cases taken
      cases concerned
      refine Session.houses_request rfl (fun allocator after held obtained => ?_) made
      exact World.houses_allocate proper.orderly (proper.served held memory) obtained
  | allocateNamed number length type backend =>
      cases taken
      have read := Errand.memory?_allocateNamed.mp concerned
      refine Session.houses_request rfl (fun allocator after held obtained => ?_) made
      exact World.houses_allocateNamed proper.orderly (proper.served held memory) read obtained
  | clone backend place =>
      cases concerned
      obtain ⟨buffer, found, rfl⟩ := Option.map_eq_some_iff.mp taken
      exact Session.houses_clone proper
        (sorted.shelved memory buffer (List.mem_of_getElem? found)) made
  | drop backend place =>
      obtain ⟨_, _, rfl⟩ := Option.map_eq_some_iff.mp taken
      cases made

/-- Every errand puts buffers on the shelf of the memory that they are in. -/
theorem Sorted.next {cabinet : Cabinet P} (sorted : cabinet.Sorted) (errand : Errand P) :
    (cabinet.next errand).Sorted := by
  cases taken : cabinet.step? errand with
  | none => rwa [next_of_none taken]
  | some step =>
      have older (memory : Backend) (buffer : Nat) (member : buffer ∈ cabinet.shelf memory) :
          (cabinet.session.step step).world.Houses memory buffer :=
        sorted.proper.houses (sorted.shelved memory buffer member) step
      refine ⟨session_next taken ▸ sorted.proper.step step, ?_⟩
      intro memory buffer member
      rw [shelf_next taken] at member
      rw [session_next taken]
      split at member
      · next concerned =>
          rcases List.mem_append.mp member with old | new
          · exact older memory buffer old
          · exact sorted.made taken concerned (Option.mem_toList.mp new)
      · exact older memory buffer member

/-- A cabinet, and its counterpart for one memory. Buffers in the same place of the
shelf are paired. -/
structure Mirrored (view : Outlook P) (memory : Backend) (full part : Cabinet P) : Prop where
  sorted : full.Sorted
  sorted' : part.Sorted
  sessions : ∃ pairs, full.session.Mirrored view memory pairs part.session ∧
    full.shelf memory = pairs.map Prod.fst ∧ part.shelf memory = pairs.map Prod.snd

/-- A cabinet starts out as its own counterpart. -/
theorem start_mirrored (suits : view.Suits memory) (state : P.State) :
    (start state).Mirrored view memory (start state) where
  sorted := start_sorted state
  sorted' := start_sorted state
  sessions := ⟨[], ⟨⟨id, .fresh suits state⟩, rfl, rfl⟩, rfl, rfl⟩

namespace Mirrored

/-- An errand that does not concern the other memory is the same for both, up to the
numbers of buffers. -/
theorem keeps (mirrored : full.Mirrored view memory part) (suits : view.Suits memory)
    {pairs : List (Nat × Nat)}
    (sessions : full.session.Mirrored view memory pairs part.session)
    (shelf : full.shelf memory = pairs.map Prod.fst)
    (shelf' : part.shelf memory = pairs.map Prod.snd) {errand : Errand P}
    (own : ∀ named, errand.memory? = some named → named = memory) :
    (full.step? errand = none ∧ part.step? errand = none) ∨
      ∃ step step', full.step? errand = some step ∧ part.step? errand = some step' ∧
        Session.Keep view memory pairs full.session part.session step step' := by
  have proper := mirrored.sorted.proper
  have proper' := mirrored.sorted'.proper
  have shelved (take : Nat → Step P) (place : Nat) (keep : ∀ pair ∈ pairs,
      Session.Keep view memory pairs full.session part.session (take pair.1) (take pair.2)) :
      ((full.shelf memory)[place]?.map take = none ∧ (part.shelf memory)[place]?.map take = none) ∨
        ∃ step step', (full.shelf memory)[place]?.map take = some step ∧
          (part.shelf memory)[place]?.map take = some step' ∧
          Session.Keep view memory pairs full.session part.session step step' := by
    rw [shelf, shelf', List.getElem?_map, List.getElem?_map]
    cases found : pairs[place]? with
    | none => exact .inl ⟨rfl, rfl⟩
    | some pair => exact .inr ⟨_, _, rfl, rfl, keep pair (List.mem_of_getElem? found)⟩
  cases errand with
  | drift state => exact .inr ⟨_, _, rfl, rfl, sessions.keep_drift suits state⟩
  | make registry cache => exact .inr ⟨_, _, rfl, rfl, sessions.keep_make registry cache⟩
  | discard number => exact .inr ⟨_, _, rfl, rfl, sessions.keep_discard number⟩
  | allocate number length type backend =>
      obtain rfl := own backend rfl
      exact .inr ⟨_, _, rfl, rfl,
        sessions.keep_allocate suits proper proper' number length type⟩
  | allocateNamed number length type backend =>
      have named (backend') (read : Backend.parse backend = .ok backend') : backend' = memory :=
        own backend' (Errand.memory?_allocateNamed.mpr read)
      exact .inr ⟨_, _, rfl, rfl,
        sessions.keep_allocateNamed suits proper proper' number length type named⟩
  | clone backend place =>
      obtain rfl := own backend rfl
      exact shelved .clone place fun pair => sessions.keep_clone proper proper'
  | drop backend place =>
      obtain rfl := own backend rfl
      exact shelved .drop place fun pair => sessions.keep_drop suits proper'

/-- An errand that concerns the memory, or none, has the same result in the counterpart, and
leaves a counterpart. -/
theorem kept (mirrored : full.Mirrored view memory part) (suits : view.Suits memory)
    {errand : Errand P}
    (own : ∀ named, errand.memory? = some named → named = memory) :
    sight memory (full.result errand) = sight memory (part.result errand) ∧
      (full.next errand).Mirrored view memory (part.next errand) := by
  obtain ⟨pairs, sessions, shelf, shelf'⟩ := mirrored.sessions
  unfold result
  rcases mirrored.keeps suits sessions shelf shelf' own with
    ⟨absent, absent'⟩ | ⟨step, step', taken, taken', keep⟩
  · rw [absent, absent', next_of_none absent, next_of_none absent']
    exact ⟨rfl, mirrored⟩
  · obtain ⟨result, more, made, made', sessions⟩ := keep
    rw [taken, taken']
    refine ⟨result, mirrored.sorted.next errand, mirrored.sorted'.next errand, ?_⟩
    rw [session_next taken, session_next taken', shelf_next taken, shelf_next taken']
    cases concerned : errand.memory? with
    | some named =>
        obtain rfl := own named concerned
        refine ⟨pairs ++ more, sessions, ?_, ?_⟩
        · rw [if_pos rfl, List.map_append, shelf, made]
        · rw [if_pos rfl, List.map_append, shelf', made']
    | none =>
        rw [made_of_no_memory taken concerned, Option.toList_none, List.map_eq_nil_iff] at made
        rw [made, List.append_nil] at sessions
        exact ⟨pairs, sessions, shelf, shelf'⟩

/-- An errand that concerns the other memory leaves the counterpart a counterpart. -/
theorem skipped (mirrored : full.Mirrored view memory part) (suits : view.Suits memory)
    (different : other ≠ memory) {errand : Errand P} (concerned : errand.memory? = some other) :
    (full.next errand).Mirrored view memory part := by
  cases taken : full.step? errand with
  | none => rwa [next_of_none taken]
  | some step =>
      obtain ⟨pairs, sessions, shelf, shelf'⟩ := mirrored.sessions
      have proper := mirrored.sorted.proper
      have foreign {place buffer : Nat} (found : (full.shelf other)[place]? = some buffer) :
          full.session.world.Foreign memory buffer :=
        (mirrored.sorted.shelved other buffer (List.mem_of_getElem? found)).foreign different
      refine ⟨mirrored.sorted.next errand, mirrored.sorted', pairs, ?_, ?_, shelf'⟩
      · rw [session_next taken]
        cases errand with
        | drift | make | discard => cases concerned
        | allocate number length type backend =>
            cases taken
            cases concerned
            exact sessions.skip_allocate suits proper number length type different
        | allocateNamed number length type backend =>
            cases taken
            exact sessions.skip_allocateNamed suits proper number length type
              (Errand.memory?_allocateNamed.mp concerned) different
        | clone backend place =>
            cases concerned
            obtain ⟨buffer, found, rfl⟩ := Option.map_eq_some_iff.mp taken
            exact sessions.skip_clone proper (foreign found)
        | drop backend place =>
            cases concerned
            obtain ⟨buffer, found, rfl⟩ := Option.map_eq_some_iff.mp taken
            exact sessions.skip_drop suits mirrored.sorted'.proper (foreign found)
      · rw [shelf_next taken, if_neg, shelf]
        rw [concerned]
        exact fun same => different (Option.some.inj same)

/-- The worlds of a cabinet and its counterpart mirror each other. -/
theorem worlds (mirrored : full.Mirrored view memory part) :
    ∃ rename pairs, World.Mirrors view memory rename pairs full.session.world
      part.session.world := by
  obtain ⟨pairs, ⟨⟨rename, mirrors⟩, _⟩, _⟩ := mirrored.sessions
  exact ⟨rename, pairs, mirrors⟩

end Mirrored

/-- The errands that do not concern the other memory come to the same in a run without
all the others. -/
theorem Mirrored.run (mirrored : full.Mirrored view memory part) (suits : view.Suits memory)
    (errands : List (Errand P)) :
    let kept := errands.filter (·.spares memory.other)
    (full.run errands).Mirrored view memory (part.run kept) ∧
      sights memory ((full.results errands).filter (·.1.spares memory.other)) =
        sights memory (part.results kept) := by
  induction errands generalizing full part with
  | nil => exact ⟨mirrored, rfl⟩
  | cons errand errands ih =>
      by_cases spared : errand.spares memory.other = true
      · obtain ⟨same, mirrored⟩ := mirrored.kept suits (Errand.own_of_spares spared)
        obtain ⟨run, results⟩ := ih mirrored
        have first : (full.results (errand :: errands)).filter (·.1.spares memory.other) =
            (errand, full.result errand) ::
              ((full.next errand).results errands).filter (·.1.spares memory.other) :=
          List.filter_cons_of_pos spared
        dsimp only
        rw [List.filter_cons_of_pos spared, first]
        exact ⟨run, congrArg₂ List.cons (congrArg (Prod.mk errand) same) results⟩
      · have skipped := mirrored.skipped suits memory.other_ne
          (Errand.concerned_of_not_spares spared)
        obtain ⟨run, results⟩ := ih skipped
        have rest : (full.results (errand :: errands)).filter (·.1.spares memory.other) =
            ((full.next errand).results errands).filter (·.1.spares memory.other) :=
          List.filter_cons_of_neg spared
        dsimp only
        rw [List.filter_cons_of_neg spared, rest]
        exact ⟨run, results⟩

/-- From the accelerator, everything is seen as it is. -/
theorem sights_accelerator (results : List (Errand P × Option (Except Error Block))) :
    sights .accelerator results = results := by
  have same (result : Option (Except Error Block)) : sight .accelerator result = result := by
    rcases result with _ | _ | _ <;> rfl
  unfold sights
  simp only [same, Prod.mk.eta, List.map_id']

/-- **Memories do not interfere.** Leave all errands out that concern the accelerator.
If the host has memory according to size and alignment only, the errands that are left
come to the same errors and, up to addresses, to the same blocks, with their lengths,
owners and outcomes, and every provider of host memory has the same counters. Leave
all errands out that concern the host. If libraries answer a name always alike, and
neither they nor loaders notice host memory, the errands that are left come to the
same errors and the same blocks, the same libraries are opened and the same entry
points called, in the same order, every cache is the same, and every provider of
accelerator memory has the same counters. -/
theorem run_isolated (state : P.State) (errands : List (Errand P)) :
    let cabinet : Cabinet P := start state
    let forHost := errands.filter (·.spares .accelerator)
    let forAccelerator := errands.filter (·.spares .host)
    let both := (cabinet.run errands).session.world
    let host := (cabinet.run forHost).session.world
    let accelerator := (cabinet.run forAccelerator).session.world
    (P.HostBySize →
      sights .host ((cabinet.results errands).filter (·.1.spares .accelerator)) =
        sights .host (cabinet.results forHost) ∧
      ∀ number, (both.providers number).source.memory = .host →
        host.providers number = both.providers number) ∧
    (P.FixedLookUps → (∃ Alike, P.HostApart Alike) →
      (cabinet.results errands).filter (·.1.spares .host) = cabinet.results forAccelerator ∧
      accelerator.outside.crossings = both.outside.crossings ∧
      accelerator.caches = both.caches ∧
      ∀ number, (both.providers number).source.memory = .accelerator →
        accelerator.providers number = both.providers number) := by
  intro cabinet forHost forAccelerator both host accelerator
  constructor
  · intro bySize
    have suits := bySize.suits (.ofEq (fun _ => false) fun _ _ => rfl)
    obtain ⟨mirrored, results⟩ := (start_mirrored suits state).run suits errands
    obtain ⟨_, _, worlds⟩ := mirrored.worlds
    exact ⟨results, worlds.provider⟩
  · rintro fixed ⟨_, apart⟩
    have suits := apart.suits fixed
    obtain ⟨mirrored, results⟩ := (start_mirrored suits state).run suits errands
    obtain ⟨_, _, worlds⟩ := mirrored.worlds
    obtain ⟨caches, agree⟩ := worlds.around rfl
    rw [sights_accelerator, sights_accelerator] at results
    exact ⟨results, agree.journal.symm, caches, worlds.provider⟩

section Mixed

open Simulation

/-- A shared block of host memory, one of the accelerator that cannot be released, and
a request of either memory that is refused. -/
def mixedErrands : List (Errand Linker.platform) :=
  [.make ⟨some Linker.library, "", "partial_"⟩ 0, .allocate 0 7 .float32 .accelerator,
    .allocate 0 4 .float64 .host, .allocateNamed 0 2 "bool" "gpu", .clone .host 0,
    .drop .accelerator 0, .drop .host 0, .allocateNamed 0 (-1) "int8" "cpu", .drop .host 1]

/-- Errands for host and accelerator take turns. Either gives the same answers without those of
the other. -/
theorem mixed_isolated :
    let cabinet : Cabinet Linker.platform := start {}
    let both := (cabinet.run mixedErrands).session.world
    let shared (owners : Nat) (outcome : Option ReleaseOutcome) : Block :=
      { provider := 0, type := .float64, address := 0, length := 4, owners, outcome }
    (sights .host ((cabinet.results mixedErrands).filter (·.1.spares .accelerator))).map Prod.snd =
      [none, some (.ok (shared 1 none)), some (.ok (shared 2 none)), some (.ok (shared 1 none)),
        some (.error (.invalidLength "-1" "int8" "host" "negative length")),
        some (.ok (shared 0 (some .freed)))] ∧
    (both.providers 0).stats = ⟨1, 1, 0, 0⟩ ∧ (both.providers 1).stats = ⟨1, 0, 1, 28⟩ ∧
    both.outside.crossings.length = 2 := by
  obtain ⟨hosted, accelerated⟩ := run_isolated (P := Linker.platform) {} mixedErrands
  obtain ⟨results, host⟩ := hosted Linker.platform_hostBySize
  obtain ⟨_, crossings, _, accelerator⟩ :=
    accelerated Linker.platform_fixedLookUps ⟨_, Linker.platform_hostApart⟩
  have first := host 0 (by decide +kernel)
  have second := accelerator 1 (by decide +kernel)
  dsimp only
  rw [results, ← crossings, ← first, ← second]
  decide +kernel

end Mixed

end Cabinet

end TypedMemory
