import TypedMemory.World.Allocator
import TypedMemory.World.Buffer

/-!
# Sessions

A session is a program at work: it makes allocators and gives them up, asks them
for buffers, clones, writes and drops buffers, in any order and for as long as it
likes. Between its steps the surroundings may change on their own. Steps that name
an allocator or a buffer which is not there do nothing.
-/

namespace TypedMemory

/-- One step of a program that uses allocators and buffers. -/
inductive Step (P : Platform) where
  /-- The surroundings change on their own. -/
  | drift (state : P.State)
  /-- An allocator is made, whose accelerator takes its library from a cache. -/
  | make (registry : Registry) (cache : Nat)
  /-- An allocator is dropped. -/
  | discard (allocator : Nat)
  | allocate (allocator : Nat) (length : Int64) (type : ElementType) (backend : Backend)
  | allocateNamed (allocator : Nat) (length : Int64) (type backend : String)
  | clone (buffer : Nat)
  | drop (buffer : Nat)
  | write (buffer index : Nat) (value : Scalar)

namespace Step

variable {P : Platform}

/-- The length that a step asks an allocator for, if it asks for a buffer. -/
def requested? : Step P → Option Int64
  | .allocate _ length _ _ => some length
  | .allocateNamed _ length _ _ => some length
  | _ => none

/-- The buffer that a step drops. -/
def dropped? : Step P → Option Nat
  | .drop buffer => some buffer
  | _ => none

/-- Only a drop drops a buffer. -/
theorem eq_drop_of_dropped? {step : Step P} {buffer : Nat} (dropped : step.dropped? = some buffer) :
    step = .drop buffer := by
  cases step with
  | drop =>
      cases dropped
      rfl
  | _ => cases dropped

/-- Every allocator that the step makes takes its library from one of the given
caches. -/
def Within (caches : Nat → Prop) : Step P → Prop
  | .make _ cache => caches cache
  | _ => True

/-- Every step is within all caches. -/
theorem within_any (step : Step P) : step.Within fun _ => True := by
  cases step <;> trivial

end Step

/-- The world, and the allocators that have not been dropped, by number. -/
structure Session (P : Platform) where
  world : World P
  allocators : Nat → Option Allocator := fun _ => none
  nextAllocator : Nat := 0

namespace World

variable {P : Platform}

/-- The world before anything was done in it. -/
def fresh (state : P.State) : World P := { outside := { state } }

/-- The world after its surroundings changed on their own. -/
def drift (world : World P) (state : P.State) : World P :=
  { world with outside := { world.outside with state } }

end World

namespace Session

variable {P : Platform}

/-- The session before its first step. -/
def start (state : P.State) : Session P := { world := .fresh state }

/-- The session with another world. -/
def inWorld (session : Session P) (world : World P) : Session P := { session with world }

@[simp] theorem inWorld_world (session : Session P) (world : World P) :
    (session.inWorld world).world = world := rfl

/-- The session after a step. -/
def step (session : Session P) : Step P → Session P
  | .drift state => session.inWorld (session.world.drift state)
  | .make registry cache =>
      let (allocator, world) := session.world.addAllocator registry cache
      { world
        allocators := replace session.allocators session.nextAllocator (some allocator)
        nextAllocator := session.nextAllocator + 1 }
  | .discard number => { session with allocators := replace session.allocators number none }
  | .allocate number length type backend =>
      match session.allocators number with
      | none => session
      | some allocator => session.inWorld (session.world.allocate allocator length type backend).2
  | .allocateNamed number length type backend =>
      match session.allocators number with
      | none => session
      | some allocator =>
          session.inWorld (session.world.allocateNamed allocator length type backend).2
  | .clone buffer =>
      match session.world.clone? buffer with
      | none => session
      | some (_, world) => session.inWorld world
  | .drop buffer => session.inWorld (session.world.drop buffer)
  | .write buffer index value =>
      match session.world.write? buffer index value with
      | none => session
      | some world => session.inWorld world

/-- The session after some steps. -/
def run (session : Session P) (steps : List (Step P)) : Session P :=
  steps.foldl step session

/-- What a step answers: the number of the buffer that it makes, or an error. Other
steps have no answer, nor have steps that name what is not there. -/
def reply (session : Session P) : Step P → Option (Except Error Nat)
  | .allocate number length type backend =>
      (session.allocators number).map fun allocator =>
        (session.world.allocate allocator length type backend).1
  | .allocateNamed number length type backend =>
      (session.allocators number).map fun allocator =>
        (session.world.allocateNamed allocator length type backend).1
  | .clone buffer => (session.world.clone? buffer).map fun made => .ok made.1
  | _ => none

/-- What some steps answer, one after the other. -/
def replies (session : Session P) : List (Step P) → List (Option (Except Error Nat))
  | [] => []
  | step :: steps => session.reply step :: (session.step step).replies steps

/-- Steps are taken one after the other. -/
theorem run_append (session : Session P) (first second : List (Step P)) :
    session.run (first ++ second) = (session.run first).run second :=
  List.foldl_append

theorem run_concat (session : Session P) (steps : List (Step P)) (step : Step P) :
    session.run (steps ++ [step]) = (session.run steps).step step :=
  session.run_append steps [step]

end Session

end TypedMemory
