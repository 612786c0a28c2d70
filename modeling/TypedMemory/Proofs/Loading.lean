import TypedMemory.Proofs.Dealing
import TypedMemory.Proofs.Lists
import TypedMemory.Simulation.Machine

/-!
# Loading by many callers

A request for a library has two steps, and between them other callers may take
theirs. Any number of callers may look at the cache and find nothing before the
first of them opens the library; opening may fail, and the next one tries again.
However their steps interleave, the library of a backend is opened successfully at
most once, nobody tries again after that, and all who are answered with a library
get that one (`Desk.run_loads_once`).

A caller whose two steps follow one another is answered as `Cache.acquire` answers
(`Desk.run_uninterrupted`).
-/

namespace TypedMemory

variable {P : Platform}

/-- An attempt to open the library of a backend. -/
structure Opening where
  backend : Backend
  path : Path
  succeeded : Bool
deriving DecidableEq

/-- The attempt that an entry tells of, if it tells of one. -/
def Entry.opening? : Entry P → Option Opening
  | .opened _ backend path succeeded => some ⟨backend, path, succeeded⟩
  | _ => none

namespace Outside

/-- All attempts to open a library, in order. -/
def openings (outside : Outside P) : List Opening :=
  outside.journal.filterMap Entry.opening?

@[simp] theorem openings_enter (outside : Outside P) (entry : Entry P) :
    (outside.enter entry).openings = outside.openings ++ entry.opening?.toList :=
  filterMap_concat ..

@[simp] theorem openings_report (outside : Outside P) (level : Level) (message : String)
    (fields : List (String × FieldValue)) :
    (outside.report level message fields).openings = outside.openings := by
  unfold report
  rw [openings_enter]
  exact List.append_nil _

end Outside

/-- Handing a library out opens nothing. -/
theorem LoadedLibrary.handOut_openings (loaded : LoadedLibrary P) (path : Path)
    (outside : Outside P) : (loaded.handOut path outside).openings = outside.openings := by
  unfold handOut
  split
  · rfl
  · exact outside.openings_report ..

/-- A request for the library of a descriptor, and its answer. Without an answer,
the first look found nothing and the second step is still to be taken. -/
structure Inquiry (P : Platform) where
  descriptor : Descriptor
  answer? : Option (Except Error (LoadedLibrary P))

/-- A cache, and all that was ever asked of it. -/
structure Desk (P : Platform) where
  outside : Outside P
  cache : Cache P := {}
  inquiries : List (Inquiry P) := []

/-- What may happen next. -/
inductive Turn (P : Platform) where
  /-- The surroundings change on their own. -/
  | drift (state : P.State)
  /-- A new caller takes the first step of a request. -/
  | arrive (descriptor : Descriptor)
  /-- A caller who found nothing takes the second step. -/
  | proceed (inquiry : Nat)

namespace Desk

/-- The desk before anyone asked. -/
def fresh (state : P.State) : Desk P := { outside := { state } }

/-- The first step of a request. A descriptor without a library is refused at
once. -/
def arrive (desk : Desk P) (descriptor : Descriptor) : Desk P :=
  let note (outside : Outside P) (answer? : Option (Except Error (LoadedLibrary P))) : Desk P :=
    { desk with outside, inquiries := desk.inquiries ++ [⟨descriptor, answer?⟩] }
  match descriptor.access with
  | .direct =>
      note desk.outside
        (some (.error (Misconfiguration.noSupportLibrary descriptor.backend.name).error))
  | .library path _ =>
      let (found, outside) := desk.cache.look descriptor.backend path desk.outside
      note outside (found.map .ok)

/-- The second step of a request, at the desk of the cache of number `number`. -/
def proceed (number : Nat) (desk : Desk P) (inquiry : Nat) : Desk P :=
  match desk.inquiries[inquiry]? with
  | some ⟨⟨backend, .library path stem⟩, none⟩ =>
      let (answer, cache, outside) := desk.cache.load number backend path desk.outside
      { outside
        cache
        inquiries :=
          desk.inquiries.set inquiry ⟨⟨backend, .library path stem⟩, some answer⟩ }
  | _ => desk

/-- The desk after a turn. -/
def turn (number : Nat) (desk : Desk P) : Turn P → Desk P
  | .drift state => { desk with outside := { desk.outside with state } }
  | .arrive descriptor => desk.arrive descriptor
  | .proceed inquiry => desk.proceed number inquiry

/-- The desk after some turns. -/
def run (number : Nat) (desk : Desk P) (turns : List (Turn P)) : Desk P :=
  turns.foldl (turn number) desk

/-- Turns are taken one after the other. -/
theorem run_append (number : Nat) (desk : Desk P) (first second : List (Turn P)) :
    desk.run number (first ++ second) = (desk.run number first).run number second :=
  List.foldl_append

/-- Two steps that follow one another do what an uninterrupted request does. -/
theorem run_uninterrupted (number : Nat) (desk : Desk P) (descriptor : Descriptor) :
    desk.run number [.arrive descriptor, .proceed desk.inquiries.length] =
      { outside := (desk.cache.acquire number descriptor desk.outside).2.2
        cache := (desk.cache.acquire number descriptor desk.outside).2.1
        inquiries := desk.inquiries ++
          [⟨descriptor, some (desk.cache.acquire number descriptor desk.outside).1⟩] } := by
  obtain ⟨backend, access⟩ := descriptor
  simp only [run, List.foldl_cons, List.foldl_nil, turn, arrive, proceed, Cache.acquire,
    Cache.look]
  cases access with
  | direct => simp
  | library path stem =>
      cases cached : desk.cache.get? backend with
      | some loaded => simp
      | none => simp

/-- What a turn comes to. -/
inductive Taken (number : Nat) (desk : Desk P) : Turn P → Desk P → Prop
  | drifted {outside : Outside P} (state : P.State)
      (openings : outside.openings = desk.outside.openings) :
      Taken number desk (.drift state) { desk with outside }
  /-- There is no library to ask for. -/
  | refused {descriptor : Descriptor} (direct : descriptor.access = .direct) :
      Taken number desk (.arrive descriptor)
        { desk with
          inquiries := desk.inquiries ++
            [⟨descriptor,
              some (.error (Misconfiguration.noSupportLibrary descriptor.backend.name).error)⟩] }
  /-- The first look found the library. -/
  | found {descriptor : Descriptor} {loaded : LoadedLibrary P} {outside : Outside P}
      (cached : desk.cache.get? descriptor.backend = some loaded)
      (openings : outside.openings = desk.outside.openings) :
      Taken number desk (.arrive descriptor)
        { desk with outside, inquiries := desk.inquiries ++ [⟨descriptor, some (.ok loaded)⟩] }
  /-- The first look found nothing. -/
  | missed (descriptor : Descriptor) :
      Taken number desk (.arrive descriptor)
        { desk with inquiries := desk.inquiries ++ [⟨descriptor, none⟩] }
  /-- No such caller was waiting. -/
  | ignored (inquiry : Nat) : Taken number desk (.proceed inquiry) desk
  /-- The second look found the library. -/
  | foundLater {inquiry : Nat} {descriptor : Descriptor} {loaded : LoadedLibrary P}
      {outside : Outside P} (waiting : desk.inquiries[inquiry]? = some ⟨descriptor, none⟩)
      (cached : desk.cache.get? descriptor.backend = some loaded)
      (openings : outside.openings = desk.outside.openings) :
      Taken number desk (.proceed inquiry)
        { desk with
          outside, inquiries := desk.inquiries.set inquiry ⟨descriptor, some (.ok loaded)⟩ }
  /-- The library did not open. -/
  | failed {inquiry : Nat} {descriptor : Descriptor} {path : Path} {stem : String}
      {error : Error} {outside : Outside P}
      (waiting : desk.inquiries[inquiry]? = some ⟨descriptor, none⟩)
      (access : descriptor.access = .library path stem)
      (absent : desk.cache.get? descriptor.backend = none)
      (opening : (P.openLibrary number path desk.outside.state).1 = .error error)
      (openings : outside.openings =
        desk.outside.openings ++ [⟨descriptor.backend, path, false⟩]) :
      Taken number desk (.proceed inquiry)
        { desk with
          outside, inquiries := desk.inquiries.set inquiry ⟨descriptor, some (.error error)⟩ }
  /-- The library opened and is kept. -/
  | opened {inquiry : Nat} {descriptor : Descriptor} {loaded : LoadedLibrary P}
      {outside : Outside P} (waiting : desk.inquiries[inquiry]? = some ⟨descriptor, none⟩)
      (absent : desk.cache.get? descriptor.backend = none)
      (same : loaded.backend = descriptor.backend)
      (openings : outside.openings =
        desk.outside.openings ++ [⟨loaded.backend, loaded.path, true⟩]) :
      Taken number desk (.proceed inquiry)
        { outside
          cache :=
            { libraries := desk.cache.libraries ++ [loaded], loads := desk.cache.loads + 1 }
          inquiries := desk.inquiries.set inquiry ⟨descriptor, some (.ok loaded)⟩ }

/-- A caller who arrives is refused, or finds the library at the first look, or has to wait. -/
theorem arrive_taken (number : Nat) (desk : Desk P) (descriptor : Descriptor) :
    desk.Taken number (.arrive descriptor) (desk.arrive descriptor) := by
  unfold arrive Cache.look
  cases access : descriptor.access with
  | direct => exact .refused access
  | library path stem =>
      cases cached : desk.cache.get? descriptor.backend with
      | none => exact .missed descriptor
      | some loaded => exact .found cached (loaded.handOut_openings path desk.outside)

/-- A caller who proceeds was not waiting, or finds the library at the second look, or tries to
open it, alone. -/
theorem proceed_taken (number : Nat) (desk : Desk P) (inquiry : Nat) :
    desk.Taken number (.proceed inquiry) (desk.proceed number inquiry) := by
  unfold proceed
  split
  · next backend path stem waiting =>
      rcases Cache.load_cases number desk.cache backend path desk.outside with
        ⟨loaded, cached, equation⟩ | ⟨absent, error, state, opening, equation⟩ |
          ⟨absent, library, state, _, equation⟩
      · simp only [equation]
        exact .foundLater waiting cached (loaded.handOut_openings path desk.outside)
      · simp only [equation]
        refine .failed waiting rfl absent (congrArg Prod.fst opening) ?_
        rw [Outside.openings_report, Outside.openings_enter]
        rfl
      · simp only [equation]
        refine .opened waiting absent rfl ?_
        rw [Outside.openings_report, Outside.openings_enter]
        rfl
  · exact .ignored inquiry

/-- Whatever turn is taken, it comes to one of these things. -/
theorem turn_taken (number : Nat) (desk : Desk P) (turn : Turn P) :
    desk.Taken number turn (desk.turn number turn) := by
  cases turn with
  | drift state => exact .drifted state rfl
  | arrive descriptor => exact desk.arrive_taken number descriptor
  | proceed inquiry => exact desk.proceed_taken number inquiry

/-- Attempts that all failed, but for the last one if a library was opened. -/
def OpenedBy (attempts : List Opening) : Option (LoadedLibrary P) → Prop
  | none => ∀ opening ∈ attempts, opening.succeeded = false
  | some loaded => ∃ failures, attempts = failures ++ [⟨loaded.backend, loaded.path, true⟩] ∧
      ∀ opening ∈ failures, opening.succeeded = false

/-- The attempts to open the library of a backend. -/
def attempts (desk : Desk P) (backend : Backend) : List Opening :=
  desk.outside.openings.filter fun opening => opening.backend = backend

/-- The cache agrees with the attempts that were made and with the answers that were
given. -/
structure Consistent (desk : Desk P) : Prop where
  loads : desk.cache.loads = .ofNat (desk.outside.openings.countP Opening.succeeded)
  opened : ∀ backend, OpenedBy (desk.attempts backend) (desk.cache.get? backend)
  answered : ∀ inquiry ∈ desk.inquiries, ∀ loaded, inquiry.answer? = some (.ok loaded) →
    desk.cache.get? inquiry.descriptor.backend = some loaded

/-- At a desk where nobody has asked, cache and attempts agree. -/
theorem consistent_fresh (state : P.State) : (fresh state : Desk P).Consistent where
  loads := rfl
  opened _ := nofun
  answered := nofun

/-- A turn that opens nothing and answers with what is cached. -/
theorem Consistent.unopened {desk later : Desk P} (consistent : desk.Consistent)
    (cache : later.cache = desk.cache) (openings : later.outside.openings = desk.outside.openings)
    (inquiries : ∀ inquiry ∈ later.inquiries, inquiry ∈ desk.inquiries ∨
      ∀ loaded, inquiry.answer? = some (.ok loaded) →
        desk.cache.get? inquiry.descriptor.backend = some loaded) : later.Consistent := by
  refine ⟨?_, ?_, ?_⟩
  · rw [cache, openings]
    exact consistent.loads
  · intro backend
    unfold attempts
    rw [cache, openings]
    exact consistent.opened backend
  · intro inquiry member loaded answer
    rw [cache]
    rcases inquiries inquiry member with older | new
    · exact consistent.answered inquiry older loaded answer
    · exact new loaded answer

/-- A failed attempt leaves the cache in agreement. -/
theorem Consistent.afterFailure {desk later : Desk P} (consistent : desk.Consistent)
    {backend : Backend} {path : Path} (cache : later.cache = desk.cache)
    (absent : desk.cache.get? backend = none)
    (openings : later.outside.openings = desk.outside.openings ++ [⟨backend, path, false⟩])
    (inquiries : ∀ inquiry ∈ later.inquiries, inquiry ∈ desk.inquiries ∨
      ∃ descriptor error, inquiry = ⟨descriptor, some (.error error)⟩) : later.Consistent := by
  refine ⟨?_, ?_, ?_⟩
  · rw [cache, openings, consistent.loads, List.countP_append]
    rfl
  · intro other
    have before := consistent.opened other
    unfold attempts at before ⊢
    rw [cache, openings, List.filter_append]
    by_cases same : backend = other
    · subst same
      rw [absent] at before ⊢
      intro opening member
      rcases List.mem_append.mp member with older | new
      · exact before opening older
      · rw [List.mem_singleton.mp (List.mem_filter.mp new).1]
    · rw [List.filter_cons_of_neg (by simpa using same), List.filter_nil, List.append_nil]
      exact before
  · intro inquiry member loaded answer
    rw [cache]
    rcases inquiries inquiry member with older | ⟨_, _, rfl⟩
    · exact consistent.answered inquiry older loaded answer
    · cases answer

/-- The library that opens is the first of its backend, and is kept. -/
theorem Consistent.afterOpening {desk later : Desk P} (consistent : desk.Consistent)
    {loaded : LoadedLibrary P}
    (cache : later.cache =
      { libraries := desk.cache.libraries ++ [loaded], loads := desk.cache.loads + 1 })
    (absent : desk.cache.get? loaded.backend = none)
    (openings : later.outside.openings =
      desk.outside.openings ++ [⟨loaded.backend, loaded.path, true⟩])
    (inquiries : ∀ inquiry ∈ later.inquiries, inquiry ∈ desk.inquiries ∨
      inquiry.descriptor.backend = loaded.backend ∧ inquiry.answer? = some (.ok loaded)) :
    later.Consistent := by
  have kept (backend : Backend) : later.cache.get? backend =
      (desk.cache.get? backend).or (if loaded.backend = backend then some loaded else none) := by
    rw [cache]
    exact desk.cache.get?_concat ..
  refine ⟨?_, ?_, ?_⟩
  · rw [cache, openings, List.countP_append, UInt64.ofNat_add, ← consistent.loads]
    rfl
  · intro other
    have before := consistent.opened other
    unfold attempts at before ⊢
    rw [kept, openings, List.filter_append]
    by_cases same : loaded.backend = other
    · subst same
      rw [absent] at before ⊢
      rw [if_pos rfl, List.filter_cons_of_pos (by simp)]
      exact ⟨_, rfl, before⟩
    · rw [if_neg same, Option.or_none, List.filter_cons_of_neg (by simpa using same),
        List.filter_nil, List.append_nil]
      exact before
  · intro inquiry member given answer
    rw [kept]
    rcases inquiries inquiry member with older | ⟨same, new⟩
    · rw [consistent.answered inquiry older given answer]
      rfl
    · rw [same, absent, if_pos rfl]
      cases answer.symm.trans new
      rfl

/-- Every turn keeps the cache in agreement with the attempts and the answers. Only a second
look that finds nothing opens a library, so no backend gets a second one. -/
theorem Consistent.turn {desk later : Desk P} (consistent : desk.Consistent) {number : Nat}
    {turn : Turn P} (taken : desk.Taken number turn later) : later.Consistent := by
  cases taken with
  | drifted _ openings => exact consistent.unopened rfl openings fun _ member => .inl member
  | ignored => exact consistent
  | refused | missed =>
      refine consistent.unopened rfl rfl ?_
      intro inquiry member
      rcases List.mem_append.mp member with older | new
      · exact .inl older
      · cases List.mem_singleton.mp new
        exact .inr nofun
  | found cached openings =>
      refine consistent.unopened rfl openings ?_
      intro inquiry member
      rcases List.mem_append.mp member with older | new
      · exact .inl older
      · cases List.mem_singleton.mp new
        right
        rintro _ ⟨⟩
        exact cached
  | foundLater _ cached openings =>
      refine consistent.unopened rfl openings ?_
      intro inquiry member
      rcases List.mem_or_eq_of_mem_set member with older | rfl
      · exact .inl older
      · right
        rintro _ ⟨⟩
        exact cached
  | failed _ _ absent _ openings =>
      refine consistent.afterFailure rfl absent openings ?_
      intro inquiry member
      rcases List.mem_or_eq_of_mem_set member with older | rfl
      · exact .inl older
      · exact .inr ⟨_, _, rfl⟩
  | opened _ absent same openings =>
      rw [← same] at absent
      refine consistent.afterOpening rfl absent openings ?_
      intro inquiry member
      rcases List.mem_or_eq_of_mem_set member with older | rfl
      · exact .inl older
      · exact .inr ⟨same.symm, rfl⟩

/-- So does every run of turns, in whatever order callers take them. -/
theorem Consistent.run {desk : Desk P} (consistent : desk.Consistent) (number : Nat)
    (turns : List (Turn P)) : (desk.run number turns).Consistent := by
  induction turns generalizing desk with
  | nil => exact consistent
  | cons turn turns ih => exact ih (consistent.turn (desk.turn_taken number turn))

/-- Of the attempts to open a library at most one succeeded. -/
theorem OpenedBy.countP {attempts : List Opening} {library : Option (LoadedLibrary P)}
    (opened : OpenedBy attempts library) :
    attempts.countP Opening.succeeded = if library.isSome then 1 else 0 := by
  have none {failures : List Opening}
      (failed : ∀ opening ∈ failures, opening.succeeded = false) :
      failures.countP Opening.succeeded = 0 := by
    apply List.countP_eq_zero.mpr
    intro opening member
    rw [failed opening member]
    exact Bool.false_ne_true
  cases library with
  | none => exact none opened
  | some loaded =>
      obtain ⟨failures, rfl, failed⟩ := opened
      rw [List.countP_append, none failed]
      rfl

/-- As many attempts succeeded as backends have a library. -/
theorem Consistent.countP_succeeded {desk : Desk P} (consistent : desk.Consistent) :
    desk.outside.openings.countP Opening.succeeded =
      Backend.all.countP fun backend => (desk.cache.get? backend).isSome := by
  have others : (fun opening : Opening => !decide (opening.backend = .host)) =
      fun opening => decide (opening.backend = .accelerator) := by
    funext ⟨backend, _, _⟩
    cases backend <;> rfl
  rw [List.countP_eq_countP_filter_add _ _ fun opening => opening.backend = .host, others]
  have host := (consistent.opened .host).countP
  have accelerator := (consistent.opened .accelerator).countP
  unfold attempts at host accelerator
  rw [host, accelerator]
  simp only [Backend.all, List.countP_cons, List.countP_nil]
  omega

/-- A turn loses no library. -/
theorem Taken.kept {desk later : Desk P} {number : Nat} {turn : Turn P}
    (taken : desk.Taken number turn later) : desk.cache.Keeps later.cache := by
  cases taken with
  | opened =>
      intro backend loaded cached
      rw [Cache.get?_concat, cached]
      rfl
  | _ => exact .refl _

/-- A library that is cached stays cached. -/
theorem run_kept (number : Nat) (desk : Desk P) (turns : List (Turn P)) :
    desk.cache.Keeps (desk.run number turns).cache := by
  induction turns generalizing desk with
  | nil => exact .refl _
  | cons turn turns ih =>
      intro backend loaded cached
      exact ih _ backend loaded ((desk.turn_taken number turn).kept backend loaded cached)

/-- A turn answers a request with an error: because there is no library to ask for,
or because the library that it tried to open did not open. Neither changes the
cache, and the first touches nothing outside. -/
inductive Denied (number : Nat) (desk : Desk P) (inquiry : Nat) (descriptor : Descriptor)
    (error : Error) : Turn P → Desk P → Prop
  | direct {later : Desk P} (last : inquiry = desk.inquiries.length)
      (direct : descriptor.access = .direct)
      (configuration : error = (Misconfiguration.noSupportLibrary descriptor.backend.name).error)
      (cache : later.cache = desk.cache) (outside : later.outside = desk.outside) :
      Denied number desk inquiry descriptor error (.arrive descriptor) later
  | unopened {later : Desk P} {path : Path} {stem : String}
      (waiting : desk.inquiries[inquiry]? = some ⟨descriptor, none⟩)
      (access : descriptor.access = .library path stem)
      (absent : desk.cache.get? descriptor.backend = none)
      (opening : (P.openLibrary number path desk.outside.state).1 = .error error)
      (openings : later.outside.openings =
        desk.outside.openings ++ [⟨descriptor.backend, path, false⟩])
      (cache : later.cache = desk.cache) :
      Denied number desk inquiry descriptor error (.proceed inquiry) later

/-- If a request is answered with an error, some turn gave that answer, for one of two reasons.
-/
theorem Taken.denied {desk later : Desk P} {number inquiry : Nat} {turn : Turn P}
    {descriptor : Descriptor} {error : Error} (taken : desk.Taken number turn later)
    (answered : later.inquiries[inquiry]? = some ⟨descriptor, some (.error error)⟩) :
    desk.inquiries[inquiry]? = some ⟨descriptor, some (.error error)⟩ ∨
      desk.Denied number inquiry descriptor error turn later := by
  cases taken with
  | drifted | ignored => exact .inl answered
  | refused direct =>
      rcases getElem?_concat_cases answered with older | ⟨last, same⟩
      · exact .inl older
      · cases same
        exact .inr (.direct last direct rfl rfl rfl)
  | found | missed =>
      rcases getElem?_concat_cases answered with older | ⟨_, same⟩
      · exact .inl older
      · cases same
  | foundLater | opened =>
      rcases getElem?_set_cases answered with older | ⟨_, same⟩
      · exact .inl older
      · cases same
  | failed waiting access absent opening openings =>
      rcases getElem?_set_cases answered with older | ⟨rfl, same⟩
      · exact .inl older
      · cases same
        exact .inr (.unopened waiting access absent opening openings rfl)

/-- A request that was answered with an error was denied at some turn. -/
theorem run_denied (number : Nat) (desk : Desk P) (turns : List (Turn P)) {inquiry : Nat}
    {descriptor : Descriptor} {error : Error}
    (answered : (desk.run number turns).inquiries[inquiry]? =
      some ⟨descriptor, some (.error error)⟩) :
    desk.inquiries[inquiry]? = some ⟨descriptor, some (.error error)⟩ ∨
      ∃ before turn after, turns = before ++ turn :: after ∧
        (desk.run number before).Denied number inquiry descriptor error turn
          (desk.run number (before ++ [turn])) := by
  induction turns generalizing desk with
  | nil => exact .inl answered
  | cons turn turns ih =>
      rcases ih _ answered with earlier | ⟨before, later, after, rfl, denied⟩
      · rcases (desk.turn_taken number turn).denied earlier with older | denied
        · exact .inl older
        · exact .inr ⟨[], turn, turns, rfl, denied⟩
      · exact .inr ⟨turn :: before, later, after, rfl, denied⟩

/-- **Double-checked loading.** However the steps of any number of callers
interleave, the load count is the number of attempts that succeeded and the number
of backends with a library. For each backend, all attempts failed but at most the
last one, whose library is the cached one. A cached library stays. Whoever is
answered with a library for a backend gets the cached one; and an error is answered
only by the turns that `Denied` describes. -/
theorem run_loads_once (number : Nat) (state : P.State) (turns : List (Turn P)) :
    let desk := (fresh state).run number turns
    desk.cache.loads.toNat = desk.outside.openings.countP Opening.succeeded ∧
    desk.cache.loads.toNat =
      (Backend.all.countP fun backend => (desk.cache.get? backend).isSome) ∧
    (∀ backend, OpenedBy (desk.attempts backend) (desk.cache.get? backend)) ∧
    (∀ before after, turns = before ++ after →
      ((fresh state).run number before).cache.Keeps desk.cache) ∧
    (∀ inquiry ∈ desk.inquiries, ∀ loaded, inquiry.answer? = some (.ok loaded) →
      desk.cache.get? inquiry.descriptor.backend = some loaded) ∧
    (∀ inquiry descriptor error,
      desk.inquiries[inquiry]? = some ⟨descriptor, some (.error error)⟩ →
      ∃ before turn after, turns = before ++ turn :: after ∧
        ((fresh state).run number before).Denied number inquiry descriptor error turn
          ((fresh state).run number (before ++ [turn]))) := by
  intro desk
  have consistent : desk.Consistent := (consistent_fresh state).run number turns
  have counted := consistent.countP_succeeded
  have loads : desk.cache.loads.toNat = desk.outside.openings.countP Opening.succeeded := by
    -- There are two backends, so the count does not wrap around.
    have few : desk.outside.openings.countP Opening.succeeded ≤ 2 := by
      rw [counted]
      exact List.countP_le_length
    rw [consistent.loads, UInt64.toNat_ofNat']
    exact Nat.mod_eq_of_lt (Nat.lt_of_le_of_lt few (by decide))
  refine ⟨loads, loads.trans counted, consistent.opened, ?_, consistent.answered, ?_⟩
  · rintro before after rfl
    change Cache.Keeps _ ((fresh state).run number (before ++ after)).cache
    rw [run_append]
    exact run_kept number _ after
  · intro inquiry descriptor error answered
    rcases run_denied number (fresh state) turns answered with never | denied
    · cases never
    · exact denied

section Rivals

open Simulation

/-- A machine whose library does not open at the first attempt. -/
def balky : Machine := { loaders := [.device], device := { failures := 1 } }

/-- Two callers ask for different libraries and find nothing. The first of them
fails to open its library, the second succeeds, and the first asks again. -/
def rivalTurns : List (Turn Machine.platform) :=
  [.arrive ⟨.accelerator, .library (.ofText "./a.so") "a_"⟩,
    .arrive ⟨.accelerator, .library (.ofText "./b.so") "b_"⟩, .proceed 0, .proceed 1,
    .arrive ⟨.accelerator, .library (.ofText "./a.so") "a_"⟩]

/-- The third request is answered with the library that the second one opened, and the first
with the error of its own attempt. -/
theorem rivals_load_once :
    let desk := (fresh (P := Machine.platform) balky).run 0 rivalTurns
    desk.inquiries[2]? = some ⟨⟨.accelerator, .library (.ofText "./a.so") "a_"⟩,
      some (.ok ⟨.accelerator, .ofText "./b.so", LoaderKind.device⟩)⟩ ∧
    desk.cache.get? .accelerator = some ⟨.accelerator, .ofText "./b.so", LoaderKind.device⟩ ∧
    desk.inquiries[0]? = some ⟨⟨.accelerator, .library (.ofText "./a.so") "a_"⟩,
      some (.error (.load (.ofText "./a.so") "simulated dlopen failure"))⟩ ∧
    ∃ before turn after, rivalTurns = before ++ turn :: after ∧
      ((fresh (P := Machine.platform) balky).run 0 before).Denied 0 0
        ⟨.accelerator, .library (.ofText "./a.so") "a_"⟩
        (.load (.ofText "./a.so") "simulated dlopen failure") turn
        ((fresh (P := Machine.platform) balky).run 0 (before ++ [turn])) := by
  intro desk
  have given : desk.inquiries[2]? = some ⟨⟨.accelerator, .library (.ofText "./a.so") "a_"⟩,
      some (.ok ⟨.accelerator, .ofText "./b.so", LoaderKind.device⟩)⟩ := rfl
  have denied : desk.inquiries[0]? = some ⟨⟨.accelerator, .library (.ofText "./a.so") "a_"⟩,
      some (.error (.load (.ofText "./a.so") "simulated dlopen failure"))⟩ := rfl
  obtain ⟨_, _, _, _, answered, errors⟩ :=
    run_loads_once (P := Machine.platform) 0 balky rivalTurns
  refine ⟨given, ?_, denied, errors _ _ _ denied⟩
  exact answered _ (List.mem_of_getElem? given) _ rfl

end Rivals

end Desk

end TypedMemory
