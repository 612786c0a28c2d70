import Mathlib.Algebra.BigOperators.Group.List.Basic
import Mathlib.Data.List.InsertIdx
import TypedMemory.Proofs.Counters
import TypedMemory.Proofs.Verdict

/-!
# Giving host memory back

A host provider does not keep the size of a block. It computes the layout from the type
and the length when the block is granted, and once more when it comes back. Both times it
is the same layout, so what was granted can always be given back, by the size and the
alignment that it was obtained with, and the bytes that were charged for it are taken off
again. A provider may be asked for any length that a word holds, also for those that no
allocator would ask for. Over any dealings with it, giving back never fails, and the bytes
that are charged are those of the blocks that are still out
(`HostLedger.run_releases_by_layout`).
-/

namespace TypedMemory

variable {P : Platform}

namespace HostMemory

variable {type : ElementType} {length : UInt64} {stats : Stats} {outside : Outside P}
  {address bytes : Nat}

/-- There is a layout exactly for the sizes up to `2 ^ 63`, less the alignment. -/
theorem layout_ok_iff :
    layout type length = .ok bytes ↔
      bytes = length.toNat * type.size ∧ length.toNat * type.size ≤ 2 ^ 63 - type.alignment := by
  change _ ↔ _ ∧ _ ≤ signedLimit - type.alignment
  constructor
  · intro sized
    refine ⟨(layout_ok sized).1, ?_⟩
    by_contra large
    cases (layout_of_large (Nat.lt_of_not_le large)).symm.trans sized
  · rintro ⟨rfl, fits⟩
    exact layout_of_fits fits

/-- What is granted has a layout, by which it is obtained and charged. -/
theorem allocate_granted (granted : (allocate type length stats outside).1 = .ok address) :
    layout type length = .ok (length.toNat * type.size) ∧
    (allocate type length stats outside).2.1 =
      stats.recordAllocation (length.toNat * type.size) ∧
    (allocate type length stats outside).2.2.state =
      if length.toNat * type.size = 0 then outside.state
      else (P.hostAlloc (length.toNat * type.size) type.alignment outside.state).2 := by
  unfold allocate at granted ⊢
  cases sized : layout type length with
  | error error =>
      rw [sized] at granted
      cases granted
  | ok bytes =>
      obtain ⟨rfl, _⟩ := layout_ok sized
      rw [sized] at granted
      refine ⟨rfl, ?_⟩
      by_cases none : length.toNat * type.size = 0
      · simp only [none, ↓reduceIte, and_self]
      · simp only [none, ↓reduceIte] at granted ⊢
        split at granted
        · cases granted
        · next found =>
            rw [if_neg found]
            exact ⟨rfl, rfl⟩

/-- What has a layout is given back by it. -/
theorem deallocate_of_layout (sized : layout type length = .ok bytes) (address : Nat)
    (stats : Stats) (outside : Outside P) :
    (deallocate type address length stats outside).1 = .ok () ∧
    (deallocate type address length stats outside).2.1 = stats.recordRelease bytes ∧
    (deallocate type address length stats outside).2.2.state =
      if bytes = 0 then outside.state
      else P.hostFree address bytes type.alignment outside.state := by
  unfold deallocate
  rw [sized]
  exact ⟨rfl, rfl, rfl⟩

end HostMemory

/-- A block of host memory, as it was granted. -/
structure HostGrant where
  type : ElementType
  address : Nat
  length : UInt64
deriving Repr, DecidableEq

/-- The bytes of a block. -/
def HostGrant.bytes (grant : HostGrant) : Nat := grant.length.toNat * grant.type.size

/-- A host provider in use: its counters, what lies outside, and the blocks that it granted
and that have not been given back. -/
structure HostLedger (P : Platform) where
  stats : Stats := {}
  outside : Outside P
  grants : List HostGrant := []

/-- A dealing with a host provider. -/
inductive HostDealing (P : Platform) where
  /-- Something happens outside. -/
  | drift (outside : Outside P)
  | allocate (type : ElementType) (length : UInt64)
  /-- The block at this place among those that are out is given back. -/
  | deallocate (place : Nat)

namespace HostLedger

/-- The ledger after a dealing. Nothing is given back that is not out. -/
def step (ledger : HostLedger P) : HostDealing P → HostLedger P
  | .drift outside => { ledger with outside }
  | .allocate type length =>
      match HostMemory.allocate type length ledger.stats ledger.outside with
      | (.error _, stats, outside) => { ledger with stats, outside }
      | (.ok address, stats, outside) =>
          { stats, outside, grants := ledger.grants ++ [⟨type, address, length⟩] }
  | .deallocate place =>
      match ledger.grants[place]? with
      | none => ledger
      | some grant =>
          let (_, stats, outside) := HostMemory.deallocate grant.type grant.address grant.length
            ledger.stats ledger.outside
          { stats, outside, grants := ledger.grants.eraseIdx place }

/-- The ledger after some dealings. -/
def run (ledger : HostLedger P) (dealings : List (HostDealing P)) : HostLedger P :=
  dealings.foldl step ledger

/-- What the provider answers when a block is given back. -/
def answer? (ledger : HostLedger P) : HostDealing P → Option (Except Error Unit)
  | .deallocate place =>
      ledger.grants[place]?.map fun grant =>
        (HostMemory.deallocate grant.type grant.address grant.length ledger.stats
          ledger.outside).1
  | _ => none

/-- All that it answers in the course of some dealings. -/
def answers (ledger : HostLedger P) : List (HostDealing P) → List (Except Error Unit)
  | [] => []
  | dealing :: dealings =>
      (ledger.answer? dealing).toList ++ (ledger.step dealing).answers dealings

/-- Every block that is out has a layout, and its bytes are charged. -/
structure Sound (ledger : HostLedger P) : Prop where
  sized : ∀ grant ∈ ledger.grants, HostMemory.layout grant.type grant.length = .ok grant.bytes
  charged : ledger.stats.liveBytes = .ofNat (ledger.grants.map HostGrant.bytes).sum

/-- A ledger is opened with nothing out. -/
theorem opened_sound (outside : Outside P) : ({ outside } : HostLedger P).Sound where
  sized _ member := (List.not_mem_nil member).elim
  charged := rfl

variable {ledger : HostLedger P}

/-- A block that is granted has a layout, and the bytes that are charged for it are those of the
layout. -/
theorem Sound.allocate (sound : ledger.Sound) (type : ElementType) (length : UInt64) :
    (ledger.step (.allocate type length)).Sound := by
  dsimp only [step]
  rcases HostMemory.allocate_cases type length ledger.stats ledger.outside with
    ⟨error, after, refused, _⟩ | ⟨bytes, address, after, sized, granted, _⟩
  · rw [refused]
    exact ⟨sound.sized, sound.charged⟩
  · rw [granted, HostMemory.charge_of_layout sized]
    obtain ⟨rfl, _⟩ := HostMemory.layout_ok sized
    constructor
    · intro grant member
      rcases List.mem_append.mp member with older | new
      · exact sound.sized grant older
      · cases List.mem_singleton.mp new
        exact sized
    · change ledger.stats.liveBytes + .ofNat (length.toNat * type.size) = _
      rw [sound.charged, List.map_append, List.sum_append, UInt64.ofNat_add]
      rfl

/-- A block that is out can be given back. -/
theorem Sound.deallocate_ok (sound : ledger.Sound) {place : Nat} {grant : HostGrant}
    (there : ledger.grants[place]? = some grant) :
    (HostMemory.deallocate grant.type grant.address grant.length ledger.stats
      ledger.outside).1 = .ok () :=
  (HostMemory.deallocate_of_layout (sound.sized grant (List.mem_of_getElem? there)) _ _ _).1

/-- A block that comes back is uncharged with the bytes that it was charged with. -/
theorem Sound.deallocate (sound : ledger.Sound) (place : Nat) :
    (ledger.step (.deallocate place)).Sound := by
  dsimp only [step]
  split
  · exact sound
  · next grant there =>
      obtain ⟨_, stats, _⟩ := HostMemory.deallocate_of_layout
        (sound.sized grant (List.mem_of_getElem? there)) grant.address ledger.stats ledger.outside
      constructor
      · intro other member
        exact sound.sized other (List.mem_of_mem_eraseIdx member)
      · obtain ⟨below, rfl⟩ := List.getElem?_eq_some_iff.mp there
        have total := List.CommMonoid.add_sum_eraseIdx (l := ledger.grants.map HostGrant.bytes)
          (i := place) (by rwa [List.length_map])
        rw [List.getElem_map, List.eraseIdx_map, Nat.add_comm] at total
        dsimp only
        rw [stats, World.ofNat_sub_of_add total, ← sound.charged]
        rfl

/-- Every dealing keeps the ledger sound. -/
theorem Sound.step (sound : ledger.Sound) (dealing : HostDealing P) :
    (ledger.step dealing).Sound := by
  cases dealing with
  | drift outside => exact ⟨sound.sized, sound.charged⟩
  | allocate type length => exact sound.allocate type length
  | deallocate place => exact sound.deallocate place

/-- So does every run of dealings. -/
theorem Sound.run (sound : ledger.Sound) (dealings : List (HostDealing P)) :
    (ledger.run dealings).Sound := by
  induction dealings generalizing ledger with
  | nil => exact sound
  | cons dealing dealings ih => exact ih (sound.step dealing)

/-- Whatever is given back is taken. -/
theorem Sound.answer (sound : ledger.Sound) {dealing : HostDealing P} {answer : Except Error Unit}
    (answered : ledger.answer? dealing = some answer) : answer = .ok () := by
  cases dealing with
  | drift | allocate => cases answered
  | deallocate place =>
      obtain ⟨grant, there, rfl⟩ := Option.map_eq_some_iff.mp answered
      exact sound.deallocate_ok there

/-- Over any dealings, everything that is given back is taken. -/
theorem Sound.answers (sound : ledger.Sound) (dealings : List (HostDealing P)) :
    ∀ answer ∈ ledger.answers dealings, answer = .ok () := by
  induction dealings generalizing ledger with
  | nil => exact fun _ member => (List.not_mem_nil member).elim
  | cons dealing dealings ih =>
      intro answer member
      rcases List.mem_append.mp member with now | later
      · exact sound.answer (Option.mem_toList.mp now)
      · exact ih (sound.step dealing) answer later

/-- **Release by layout.** A layout exists exactly for the sizes up to `2 ^ 63`, less the
alignment, and it has the size that type and length make. Whenever a block was granted,
giving it back succeeds at every later time, by the size and the alignment that it was
obtained with, and takes off exactly the bytes that the grant charged. So over any dealings
with a provider, in which every block is given back at most once, giving back never fails,
and the bytes charged are, modulo `2 ^ 64`, those of the blocks that are out. -/
theorem run_releases_by_layout :
    (∀ type length bytes, HostMemory.layout type length = .ok bytes ↔
      bytes = length.toNat * type.size ∧
        length.toNat * type.size ≤ 2 ^ 63 - type.alignment) ∧
    (∀ type length stats (outside : Outside P) address,
      (HostMemory.allocate type length stats outside).1 = .ok address →
        let bytes := length.toNat * type.size
        let granted := (HostMemory.allocate type length stats outside).2
        bytes < 2 ^ 64 ∧
        granted.1.liveBytes = stats.liveBytes + .ofNat bytes ∧
        (granted.2.state = if bytes = 0 then outside.state
          else (P.hostAlloc bytes type.alignment outside.state).2) ∧
        ∀ stats' (outside' : Outside P),
          let returned := HostMemory.deallocate type address length stats' outside'
          returned.1 = .ok () ∧
          returned.2.1.liveBytes = stats'.liveBytes - .ofNat bytes ∧
          (returned.2.2.state = if bytes = 0 then outside'.state
            else P.hostFree address bytes type.alignment outside'.state)) ∧
    ∀ (outside : Outside P) dealings,
      let opened : HostLedger P := { outside }
      (∀ answer ∈ opened.answers dealings, answer = .ok ()) ∧
      (opened.run dealings).stats.liveBytes.toNat =
        ((opened.run dealings).grants.map HostGrant.bytes).sum % 2 ^ 64 := by
  refine ⟨fun _ _ _ => HostMemory.layout_ok_iff, ?_, ?_⟩
  · intro type length stats outside address granted
    obtain ⟨sized, counted, obtained⟩ := HostMemory.allocate_granted granted
    refine ⟨(HostMemory.layout_ok sized).2, congrArg Stats.liveBytes counted, obtained, ?_⟩
    intro stats' outside'
    obtain ⟨taken, counted', freed⟩ :=
      HostMemory.deallocate_of_layout sized address stats' outside'
    exact ⟨taken, congrArg Stats.liveBytes counted', freed⟩
  · intro outside dealings opened
    have sound : opened.Sound := opened_sound outside
    refine ⟨sound.answers dealings, ?_⟩
    rw [(sound.run dealings).charged]
    exact UInt64.toNat_ofNat'

open Simulation

/-- Three blocks are granted and two requests are refused, one for its layout and one by the
machine; then two blocks are given back, in another order. -/
def busy : List (HostDealing Machine.platform) :=
  [.allocate .int32 10, .allocate .bool 18446744073709551615, .allocate .uint8 3,
    .allocate .float64 1152921504606846975, .allocate .int64 0, .deallocate 2, .deallocate 7,
    .deallocate 0]

/-- Both blocks that are given back are taken, and only the bytes of the third stay charged. -/
theorem busy_releases_by_layout :
    let opened : HostLedger Machine.platform := { outside := { state := {} } }
    HostMemory.layout .float64 1152921504606846975 = .ok 9223372036854775800 ∧
    (∀ bytes, HostMemory.layout .float64 1152921504606846976 ≠ .ok bytes) ∧
    (HostMemory.allocate .int32 10 {} opened.outside).1 = .ok 0x10000 ∧
    (∀ stats (outside : Outside Machine.platform),
      (HostMemory.deallocate .int32 0x10000 10 stats outside).1 = .ok ()) ∧
    (opened.answers busy).length = 2 ∧ (∀ answer ∈ opened.answers busy, answer = .ok ()) ∧
    (opened.run busy).stats.liveBytes.toNat = 3 := by
  intro opened
  obtain ⟨sized, served, dealt⟩ := @run_releases_by_layout Machine.platform
  have granted : (HostMemory.allocate .int32 10 {} opened.outside).1 = .ok 0x10000 := by
    decide +kernel
  have out : ((opened.run busy).grants.map HostGrant.bytes).sum % 2 ^ 64 = 3 := by
    decide +kernel
  obtain ⟨_, _, _, returns⟩ := served _ _ _ _ _ granted
  refine ⟨(sized _ _ _).mpr (by decide), ?_, granted,
    fun stats outside => (returns stats outside).1, by decide +kernel, (dealt _ busy).1,
    (dealt _ busy).2.trans out⟩
  intro bytes fits
  exact absurd ((sized _ _ _).mp fits).2 (by decide)

end HostLedger

end TypedMemory
