import TypedMemory.Proofs.Housing
import TypedMemory.Proofs.Reflection

/-!
# Sessions and their counterparts

The counterpart of a session, for one memory, has the same allocators, and its world
is a mirror of the session's world. A step that concerns that memory comes to the same
in both: it is refused with the same error, or makes or shares or gives up a block and
its reflection (`Session.Keep`). A step that concerns the other memory changes the
session, and its counterpart is a counterpart still.
-/

namespace TypedMemory

variable {P : Platform}

/-- The allocator that a step asks for a buffer, and how. -/
def Step.request? : Step P → Option (Nat × (World P → Allocator → Except Error Nat × World P))
  | .allocate number length type backend =>
      some (number, fun world allocator => world.allocate allocator length type backend)
  | .allocateNamed number length type backend =>
      some (number, fun world allocator => world.allocateNamed allocator length type backend)
  | _ => none

/-- An error as it is, or the block of the buffer that was answered with. -/
def World.told (world : World P) : Except Error Nat → Option (Except Error Block)
  | .error error => some (.error error)
  | .ok buffer => (world.block? buffer).map .ok

/-- The block without its address. -/
def Block.placeless (block : Block) : Block := { block with address := 0 }

/-- The block as it is compared: addresses of host memory are left out. -/
def Block.seenFrom : Backend → Block → Block
  | .host => placeless
  | .accelerator => id

/-- Blocks that are alike for a memory look the same from there. -/
theorem Block.Alike.seenFrom {memory : Backend} {block block' : Block}
    (alike : block.Alike memory block') : block.seenFrom memory = block'.seenFrom memory := by
  obtain ⟨provider, type, address, length, owners, written, outcome⟩ := alike
  cases memory with
  | host =>
      change block.placeless = block'.placeless
      unfold Block.placeless
      rw [provider, type, length, owners, written, outcome]
  | accelerator =>
      cases block
      cases block'
      cases provider
      cases type
      cases address rfl
      cases length
      cases owners
      cases written
      cases outcome
      rfl

/-- What was come to, as it is compared. -/
def sight (memory : Backend) (result : Option (Except Error Block)) :
    Option (Except Error Block) :=
  result.map (Except.map (Block.seenFrom memory))

/-- Paired buffers own a block and its reflection. -/
theorem World.Mirrors.block?_sight {view : Outlook P} {memory : Backend} {rename : Nat → Nat}
    {pairs : List (Nat × Nat)} {full part : World P}
    (mirrors : World.Mirrors view memory rename pairs full part) (orderly' : part.Orderly)
    {pair : Nat × Nat} (paired : pair ∈ pairs) :
    sight memory ((full.block? pair.1).map .ok) = sight memory ((part.block? pair.2).map .ok) := by
  unfold World.block?
  rcases mirrors.reflection orderly' paired with
    ⟨absent, absent'⟩ | ⟨number, block, block', held, held', _, found, found', alike, _⟩
  · rw [absent, absent']
    rfl
  · rw [held, held', Option.bind_some, Option.bind_some, found, found']
    change some (Except.ok (block.seenFrom memory)) = some (Except.ok (block'.seenFrom memory))
    rw [alike.seenFrom]

namespace Session

open World

variable {view : Outlook P} {memory : Backend} {pairs : List (Nat × Nat)}
  {full part session : Session P}

/-- The buffer that a step makes, if it makes one. -/
def made (session : Session P) (step : Step P) : Option Nat :=
  (session.reply step).bind Except.toOption

/-- What a step comes to: an error, or the block that it made, that it shared, or that
it dropped a buffer of, as that block is afterwards. -/
def result (session : Session P) (step : Step P) : Option (Except Error Block) :=
  let after := (session.step step).world
  match step.dropped? with
  | some buffer =>
      ((session.world.blockNumber? buffer).bind fun number => after.blocks[number]?).map .ok
  | none => (session.reply step).bind after.told

/-- A session whose allocators take each memory from a provider of that memory. -/
structure Proper (session : Session P) : Prop where
  sound : session.Sound fun _ => True
  assigned : ∀ number allocator, session.allocators number = some allocator →
    ∀ backend provider, allocator.provider backend = .ok provider →
      (session.world.providers provider).source.memory = backend

/-- The world of a proper session is orderly. -/
theorem Proper.orderly (proper : session.Proper) : session.world.Orderly :=
  proper.sound.reachable.owned.orderly

/-- An allocator serves a backend by a provider that exists and has memory of that backend. -/
theorem Proper.served (proper : session.Proper) {number : Nat} {allocator : Allocator}
    (held : session.allocators number = some allocator) (backend : Backend) (provider : Nat)
    (served : allocator.provider backend = .ok provider) :
    provider < session.world.nextProvider ∧
      (session.world.providers provider).source.memory = backend :=
  ⟨(proper.sound.known number allocator held).provider served,
    proper.assigned number allocator held backend provider served⟩

/-- A request for another backend goes to a provider of other memory. -/
theorem Proper.unserved (proper : session.Proper) {number : Nat} {allocator : Allocator}
    (held : session.allocators number = some allocator) {backend : Backend}
    (other : backend ≠ memory) (provider : Nat)
    (served : allocator.provider backend = .ok provider) :
    (session.world.providers provider).source.memory ≠ memory := by
  rwa [(proper.served held backend provider served).2]

/-- Steps keep a session proper. -/
theorem Proper.step (proper : session.Proper) (taken : Step P) : (session.step taken).Proper := by
  have allowed : taken.Within fun _ => True := by cases taken <;> trivial
  refine ⟨proper.sound.step allowed, ?_⟩
  intro number allocator held backend provider served
  rcases allocators_step held with older | ⟨_, registry, cache, rfl, rfl⟩
  · obtain ⟨known, own⟩ := proper.served older backend provider served
    rw [(step_follows proper.sound.known allowed).extends.source provider known]
    exact own
  · change ((session.world.addAllocator registry cache).2.providers provider).source.memory = _
    rcases addAllocator_serves served with ⟨rfl, source⟩ | ⟨rfl, route, _, source⟩ <;>
      rw [source] <;>
      rfl

/-- A buffer stays in its memory, whatever step is taken. -/
theorem Proper.houses (proper : session.Proper) {buffer : Nat}
    (houses : session.world.Houses memory buffer) (taken : Step P) :
    (session.step taken).world.Houses memory buffer := by
  have allowed : taken.Within fun _ => True := by cases taken <;> trivial
  exact houses.follows proper.sound.reachable (step_follows proper.sound.known allowed)

/-- A session starts out proper. -/
theorem start_proper (state : P.State) : (start state).Proper where
  sound := start_sound state
  assigned _ allocator held := by
    change none = some allocator at held
    cases held

/-- A session, and its counterpart for one memory. -/
structure Mirrored (view : Outlook P) (memory : Backend) (pairs : List (Nat × Nat))
    (full part : Session P) : Prop where
  worlds : World.Mirrored view memory pairs full.world part.world
  allocators : part.allocators = full.allocators
  nextAllocator : part.nextAllocator = full.nextAllocator

/-- Steps of a session and of its counterpart that come to the same, and after which
it still is the counterpart. The buffers that they make are paired. -/
structure Keep (view : Outlook P) (memory : Backend) (pairs : List (Nat × Nat))
    (full part : Session P) (step step' : Step P) : Prop where
  result : sight memory (full.result step) = sight memory (part.result step')
  mirrored : ∃ more : List (Nat × Nat), more.map Prod.fst = (full.made step).toList ∧
    more.map Prod.snd = (part.made step').toList ∧
    (full.step step).Mirrored view memory (pairs ++ more) (part.step step')

/-- Allocators have no part in how worlds mirror each other, so a session may exchange its world
for one that is mirrored. -/
theorem Mirrored.inWorld (mirrored : full.Mirrored view memory pairs part)
    {more : List (Nat × Nat)} {world world' : World P}
    (worlds : World.Mirrored view memory more world world') :
    (full.inWorld world).Mirrored view memory more (part.inWorld world') :=
  ⟨worlds, mirrored.allocators, mirrored.nextAllocator⟩

/-- A step that answers with a buffer or an error. -/
structure Answers (session : Session P) (step : Step P) (answer : Except Error Nat × World P) :
    Prop where
  undropped : step.dropped? = none
  reply : session.reply step = some answer.1
  after : session.step step = session.inWorld answer.2

/-- What a step results in is read off its answer and the world that it leaves. -/
theorem Answers.result {step : Step P} {answer : Except Error Nat × World P}
    (answers : session.Answers step answer) :
    session.result step = answer.2.told answer.1 := by
  unfold Session.result
  rw [answers.undropped, answers.reply, answers.after]
  rfl

/-- A step makes the buffer that it is answered with. -/
theorem Answers.made {step : Step P} {answer : Except Error Nat × World P}
    (answers : session.Answers step answer) : session.made step = answer.1.toOption := by
  unfold Session.made
  rw [answers.reply]
  rfl

/-- A request to an allocator that is there is answered by asking it. -/
theorem answers_request {step : Step P} {number : Nat} {allocator : Allocator}
    {ask : World P → Allocator → Except Error Nat × World P}
    (asked : step.request? = some (number, ask))
    (held : session.allocators number = some allocator) :
    session.Answers step (ask session.world allocator) := by
  cases step <;> cases asked <;> refine ⟨rfl, ?_, ?_⟩ <;>
    simp only [Session.reply, Session.step, held, Option.map_some]

/-- A clone of a buffer that is there is answered with the next buffer. -/
theorem answers_clone {buffer number : Nat}
    (held : session.world.blockNumber? buffer = some number) :
    session.Answers (.clone buffer)
      (.ok session.world.nextBuffer, session.world.share number) := by
  refine ⟨rfl, ?_, ?_⟩ <;>
    simp only [Session.reply, Session.step, World.clone?_eq, held, Option.map_some]

/-- A step that names an allocator or a buffer which is not there. -/
structure Idle (session : Session P) (step : Step P) : Prop where
  undropped : step.dropped? = none
  reply : session.reply step = none
  after : session.step step = session

/-- A request to an allocator that is not there does nothing. -/
theorem idle_request {step : Step P} {number : Nat}
    {ask : World P → Allocator → Except Error Nat × World P}
    (asked : step.request? = some (number, ask)) (absent : session.allocators number = none) :
    session.Idle step := by
  cases step <;> cases asked <;> refine ⟨rfl, ?_, ?_⟩ <;>
    simp only [Session.reply, Session.step, absent, Option.map_none]

/-- A clone of a buffer that is not there does nothing. -/
theorem idle_clone {buffer : Nat} (absent : session.world.blockNumber? buffer = none) :
    session.Idle (.clone buffer) := by
  refine ⟨rfl, ?_, ?_⟩ <;>
    simp only [Session.reply, Session.step, World.clone?_eq, absent, Option.map_none]

/-- A step that does nothing makes no buffer. -/
theorem Idle.made {step : Step P} (idle : session.Idle step) : session.made step = none := by
  unfold Session.made
  rw [idle.reply]
  rfl

/-- A buffer that an allocator makes lives where the allocator made it. -/
theorem houses_request {step : Step P} {number buffer : Nat}
    {ask : World P → Allocator → Except Error Nat × World P}
    (asked : step.request? = some (number, ask))
    (obtained : ∀ allocator after, session.allocators number = some allocator →
      ask session.world allocator = (.ok buffer, after) → after.Houses memory buffer)
    (made : session.made step = some buffer) :
    (session.step step).world.Houses memory buffer := by
  cases held : session.allocators number with
  | none => cases (idle_request asked held).made.symm.trans made
  | some allocator =>
      have answers := answers_request asked held
      rw [answers.made] at made
      rw [answers.after]
      rcases answer : ask session.world allocator with ⟨error | new, after⟩ <;>
        rw [answer] at made <;>
        cases made
      exact obtained allocator after held answer

/-- A clone is in the memory of the buffer that it was cloned from. -/
theorem houses_clone (proper : session.Proper) {buffer new : Nat}
    (houses : session.world.Houses memory buffer) (made : session.made (.clone buffer) = some new) :
    (session.step (.clone buffer)).world.Houses memory new := by
  cases held : session.world.blockNumber? buffer with
  | none => cases (idle_clone held).made.symm.trans made
  | some number =>
      have answers := answers_clone held
      rw [answers.after]
      cases answers.made.symm.trans made
      exact houses_share houses proper.orderly held

/-- A step that answers nothing and drops nothing. -/
theorem Keep.of_silent {step step' : Step P} (undropped : step.dropped? = none)
    (undropped' : step'.dropped? = none) (silent : full.reply step = none)
    (silent' : part.reply step' = none)
    (mirrored : (full.step step).Mirrored view memory pairs (part.step step')) :
    Keep view memory pairs full part step step' := by
  constructor
  · unfold Session.result
    rw [undropped, undropped', silent, silent']
    rfl
  · refine ⟨[], ?_, ?_, ?_⟩
    · unfold Session.made
      rw [silent]
      rfl
    · unfold Session.made
      rw [silent']
      rfl
    · rwa [List.append_nil]

namespace Mirrored

/-- Steps that do nothing on either side keep the mirror as it is. -/
theorem keep_of_idle (mirrored : full.Mirrored view memory pairs part) {step step' : Step P}
    (idle : full.Idle step) (idle' : part.Idle step') :
    Keep view memory pairs full part step step' := by
  refine .of_silent idle.undropped idle'.undropped idle.reply idle'.reply ?_
  rwa [idle.after, idle'.after]

/-- If both sides are answered alike, by the same error or by a block and its reflection, the
new buffers are paired and the mirror is kept. -/
theorem keep_of_bothMake (mirrored : full.Mirrored view memory pairs part)
    (proper' : part.Proper) {step step' : Step P} {one other : Except Error Nat × World P}
    (both : BothMake view memory pairs full.world part.world one other)
    (answers : full.Answers step one) (answers' : part.Answers step' other) :
    Keep view memory pairs full part step step' := by
  have orderly' : other.2.Orderly := by
    have after := (proper'.step step').orderly
    rwa [answers'.after] at after
  rcases both with ⟨error, refused, refused', worlds⟩ | ⟨made, made', rename, mirrors⟩
  · constructor
    · rw [answers.result, answers'.result, refused, refused']
      rfl
    · refine ⟨[], ?_, ?_, ?_⟩
      · rw [answers.made, refused]
        rfl
      · rw [answers'.made, refused']
        rfl
      · rw [answers.after, answers'.after, List.append_nil]
        exact mirrored.inWorld worlds
  · constructor
    · rw [answers.result, answers'.result, made, made']
      exact mirrors.block?_sight orderly' (List.mem_append_right _ List.mem_cons_self)
    · refine ⟨[(full.world.nextBuffer, part.world.nextBuffer)], ?_, ?_, ?_⟩
      · rw [answers.made, made]
        rfl
      · rw [answers'.made, made']
        rfl
      · rw [answers.after, answers'.after]
        exact mirrored.inWorld ⟨rename, mirrors⟩

/-- The surroundings change on both sides alike. -/
theorem keep_drift (mirrored : full.Mirrored view memory pairs part) (suits : view.Suits memory)
    (state : P.State) : Keep view memory pairs full part (.drift state) (.drift state) := by
  obtain ⟨rename, mirrors⟩ := mirrored.worlds
  exact .of_silent rfl rfl rfl rfl (mirrored.inWorld ⟨rename, mirrors.drift suits state⟩)

/-- Both sides drop the same allocator. -/
theorem keep_discard (mirrored : full.Mirrored view memory pairs part) (number : Nat) :
    Keep view memory pairs full part (.discard number) (.discard number) := by
  refine .of_silent rfl rfl rfl rfl ⟨mirrored.worlds, ?_, mirrored.nextAllocator⟩
  exact congrArg (replace · number none) mirrored.allocators

/-- Both sides make the same allocator: the providers that are added have the same numbers and
the same sources. -/
theorem keep_make (mirrored : full.Mirrored view memory pairs part) (registry : Registry)
    (cache : Nat) :
    Keep view memory pairs full part (.make registry cache) (.make registry cache) := by
  obtain ⟨rename, mirrors⟩ := mirrored.worlds
  have hosted := mirrors.addProvider .host
  have made : Mirrors view memory rename pairs (full.world.addAllocator registry cache).2
        (part.world.addAllocator registry cache).2 ∧
      (part.world.addAllocator registry cache).1 = (full.world.addAllocator registry cache).1 := by
    rcases addAllocator_cases full.world registry cache with
      ⟨_, resolved, equation⟩ | ⟨path, resolved, equation⟩ <;>
      rcases addAllocator_cases part.world registry cache with
        ⟨_, resolved', equation'⟩ | ⟨path', resolved', equation'⟩ <;>
      cases resolved.symm.trans resolved' <;>
      rw [equation, equation', mirrors.nextProvider]
    · exact ⟨hosted, rfl⟩
    · exact ⟨hosted.addProvider _, rfl⟩
  refine .of_silent rfl rfl rfl rfl
    ⟨⟨rename, made.1⟩, ?_, congrArg (· + 1) mirrored.nextAllocator⟩
  change replace part.allocators part.nextAllocator
      (some (part.world.addAllocator registry cache).1) =
    replace full.allocators full.nextAllocator (some (full.world.addAllocator registry cache).1)
  rw [mirrored.allocators, mirrored.nextAllocator, made.2]

section Requests

variable (mirrored : full.Mirrored view memory pairs part) {step : Step P} {number : Nat}
  {ask : World P → Allocator → Except Error Nat × World P}
  (asked : step.request? = some (number, ask))

include mirrored asked

/-- A request that both sides serve alike is kept, whether or not there is an allocator to serve
it. -/
theorem keep_request (proper' : part.Proper)
    (both : ∀ allocator, full.allocators number = some allocator →
      BothMake view memory pairs full.world part.world (ask full.world allocator)
        (ask part.world allocator)) :
    Keep view memory pairs full part step step := by
  have same := congrFun mirrored.allocators number
  cases held : full.allocators number with
  | none =>
      exact mirrored.keep_of_idle (idle_request asked held) (idle_request asked (same.trans held))
  | some allocator =>
      exact mirrored.keep_of_bothMake proper' (both allocator held) (answers_request asked held)
        (answers_request asked (same.trans held))

/-- A request that only changes the other memory leaves the counterpart a counterpart. -/
theorem skip_request
    (left : ∀ allocator, full.allocators number = some allocator →
      World.Mirrored view memory pairs (ask full.world allocator).2 part.world) :
    (full.step step).Mirrored view memory pairs part := by
  cases held : full.allocators number with
  | none => rwa [(idle_request asked held).after]
  | some allocator =>
      rw [(answers_request asked held).after]
      exact mirrored.inWorld (left allocator held)

end Requests

/-- A request for the memory itself comes to the same on both sides. -/
theorem keep_allocate (mirrored : full.Mirrored view memory pairs part) (suits : view.Suits memory)
    (proper : full.Proper) (proper' : part.Proper) (number : Nat)
    (length : Int64) (type : ElementType) :
    Keep view memory pairs full part (.allocate number length type memory)
      (.allocate number length type memory) := by
  obtain ⟨rename, mirrors⟩ := mirrored.worlds
  refine mirrored.keep_request rfl proper' fun allocator held => ?_
  exact mirrors.allocate suits proper.orderly proper'.orderly
    (proper.served held memory) length type

/-- So does a request that names the memory by text, also if the text is refused. -/
theorem keep_allocateNamed (mirrored : full.Mirrored view memory pairs part)
    (suits : view.Suits memory) (proper : full.Proper)
    (proper' : part.Proper) (number : Nat) (length : Int64) (type : String) {backend : String}
    (own : ∀ named, Backend.parse backend = .ok named → named = memory) :
    Keep view memory pairs full part (.allocateNamed number length type backend)
      (.allocateNamed number length type backend) := by
  obtain ⟨rename, mirrors⟩ := mirrored.worlds
  refine mirrored.keep_request rfl proper' fun allocator held => ?_
  exact mirrors.allocateNamed suits proper.orderly proper'.orderly
    (proper.served held memory) length type own

/-- A request for other memory is the session's own affair. -/
theorem skip_allocate (mirrored : full.Mirrored view memory pairs part) (suits : view.Suits memory)
    (proper : full.Proper) (number : Nat) (length : Int64) (type : ElementType) {backend : Backend}
    (other : backend ≠ memory) :
    (full.step (.allocate number length type backend)).Mirrored view memory pairs part := by
  obtain ⟨rename, mirrors⟩ := mirrored.worlds
  refine mirrored.skip_request rfl fun allocator held => ⟨rename, ?_⟩
  exact mirrors.allocate_left suits proper.orderly (proper.unserved held other) length type

/-- So is a request that names other memory by text. -/
theorem skip_allocateNamed (mirrored : full.Mirrored view memory pairs part)
    (suits : view.Suits memory) (proper : full.Proper) (number : Nat) (length : Int64)
    (type : String) {backend : String} {named : Backend}
    (read : Backend.parse backend = .ok named) (other : named ≠ memory) :
    (full.step (.allocateNamed number length type backend)).Mirrored view memory pairs
      part := by
  obtain ⟨rename, mirrors⟩ := mirrored.worlds
  refine mirrored.skip_request rfl fun allocator held => ⟨rename, ?_⟩
  exact mirrors.allocateNamed_left suits proper.orderly read (proper.unserved held other) length
    type

/-- Buffers that are paired are cloned alike, and the clones are paired. -/
theorem keep_clone (mirrored : full.Mirrored view memory pairs part) (proper : full.Proper)
    (proper' : part.Proper) {pair : Nat × Nat} (paired : pair ∈ pairs) :
    Keep view memory pairs full part (.clone pair.1) (.clone pair.2) := by
  obtain ⟨rename, mirrors⟩ := mirrored.worlds
  rcases mirrors.reflection proper'.orderly paired with
    ⟨absent, absent'⟩ | ⟨number, _, _, held, held', inside, _⟩
  · exact mirrored.keep_of_idle (idle_clone absent) (idle_clone absent')
  · exact mirrored.keep_of_bothMake proper'
      (.inr ⟨rfl, rfl, rename, mirrors.share proper.orderly proper'.orderly inside⟩)
      (answers_clone held) (answers_clone held')

/-- Buffers that are paired are dropped alike: the blocks lose an owner each, or are both
retired. -/
theorem keep_drop (mirrored : full.Mirrored view memory pairs part) (suits : view.Suits memory)
    (proper' : part.Proper) {pair : Nat × Nat} (paired : pair ∈ pairs) :
    Keep view memory pairs full part (.drop pair.1) (.drop pair.2) := by
  obtain ⟨rename, mirrors⟩ := mirrored.worlds
  have dropped := mirrors.drop suits proper'.orderly paired
  refine ⟨?_, [], rfl, rfl, ?_⟩
  · change sight memory (((full.world.blockNumber? pair.1).bind fun number =>
        (full.world.drop pair.1).blocks[number]?).map .ok) =
      sight memory (((part.world.blockNumber? pair.2).bind fun number =>
        (part.world.drop pair.2).blocks[number]?).map .ok)
    rcases mirrors.reflection proper'.orderly paired with
      ⟨absent, absent'⟩ | ⟨number, _, _, held, held', inside, _⟩
    · rw [absent, absent']
      rfl
    · rw [← part.world.drop_length pair.2] at inside
      have found' := List.getElem?_eq_getElem inside
      obtain ⟨block, found, alike, _⟩ := dropped.block number _ found'
      rw [held, held', Option.bind_some, Option.bind_some, found, found']
      exact congrArg (fun block => some (Except.ok block)) alike.seenFrom
  · rw [List.append_nil]
    exact mirrored.inWorld ⟨rename, dropped⟩

/-- A clone of a buffer in other memory is the session's own affair. -/
theorem skip_clone (mirrored : full.Mirrored view memory pairs part) (proper : full.Proper)
    {buffer : Nat} (foreign : full.world.Foreign memory buffer) :
    (full.step (.clone buffer)).Mirrored view memory pairs part := by
  cases held : full.world.blockNumber? buffer with
  | none => rwa [(idle_clone held).after]
  | some number =>
      obtain ⟨rename, mirrors⟩ := mirrored.worlds
      rw [(answers_clone held).after]
      exact mirrored.inWorld ⟨rename, mirrors.share_left proper.orderly (foreign number · held)⟩

/-- So is the drop of a buffer in other memory. -/
theorem skip_drop (mirrored : full.Mirrored view memory pairs part) (suits : view.Suits memory)
    (proper' : part.Proper) {buffer : Nat} (foreign : full.world.Foreign memory buffer) :
    (full.step (.drop buffer)).Mirrored view memory pairs part := by
  obtain ⟨rename, mirrors⟩ := mirrored.worlds
  exact mirrored.inWorld ⟨rename, mirrors.drop_left suits proper'.orderly foreign⟩

end Mirrored

end Session

end TypedMemory
