import MemoryDemo.Darwin.ActivityDemos
import MemoryDemo.Darwin.SharedPages
import MemoryDemo.Library.Hosted

/-! The contents of purgeable memory in `demo_purgeable_memory` and `demo_purgeable_data` of
`macos/process/activity_monitor_demo.mm`, which the system may take while nobody holds on to
them, and what the demos print when they look at them again. -/

namespace MemoryDemo.Darwin.PurgeableDemos
open Library.CallTree Library.Hosted
open ActivityDemos (pressureChunk)
open FootprintDemos (sizeBytes)
open SharedPages (pageOffsets pageOffsets_spec)

/-- The states of `vm_purgable_control`. -/
inductive PurgableState where
  | nonvolatile
  | volatile
  | empty
  deriving DecidableEq, Repr

/-- The memory that a demo looks into: its region, or the bytes of its `NSPurgeableData`. -/
inductive Buffer where
  | region
  | data
  deriving DecidableEq, Repr

/-- What is printed of the contents behind the memory pressure. -/
inductive Message where
  | firstByte (byte : Char)
  | contentTaken
  | contentThere
  | noBuffer
  | dataTaken
  deriving DecidableEq, Repr

inductive Call where
  | vmAllocate (size : UInt64)
  | vmPurgableControl (state : PurgableState)
  | vmDeallocate
  | initWithLength (size : UInt64)
  | beginContentAccess
  | mutableBytes
  | endContentAccess
  | store (buffer : Buffer) (offset : UInt64) (byte : Char)
  | load (buffer : Buffer) (offset : UInt64)
  | malloc (size : UInt64)
  | fillPages (block : Nat)
  | free (block : Nat)
  | printMemoryInfo
  | waitForUser
  | print (message : Message)
  deriving Repr

/-- `false` and `none` are failures. -/
@[reducible] def Answer : Call → Type
  | .vmAllocate _ | .vmPurgableControl _ | .initWithLength _ => Bool
  | .beginContentAccess | .mutableBytes => Bool
  | .load _ _ => Char
  | .malloc _ => Option Nat
  | .vmDeallocate | .endContentAccess | .store _ _ _ | .fillPages _ | .free _ => Unit
  | .printMemoryInfo | .waitForUser | .print _ => Unit

abbrev Action (α : Type) : Type := Program Call Answer α

abbrev ask (request : Call) : Action (Answer request) :=
  Program.ask request

def storePages (buffer : Buffer) (byte : Char) : List UInt64 → Action Unit
  | [] => return ()
  | offset :: rest => do
    ask (.store buffer offset byte)
    storePages buffer byte rest

/-- The loop that allocates blocks until one is refused. -/
def allocatePressure : Nat → List Nat → Action (List Nat)
  | 0, pressureBuffers => return pressureBuffers
  | rounds + 1, pressureBuffers => do
    let some pressure ← ask (.malloc pressureChunk)
      | return pressureBuffers
    ask (.fillPages pressure)
    allocatePressure rounds (pressureBuffers ++ [pressure])

def freePressure : List Nat → Action Unit
  | [] => return ()
  | pressure :: rest => do
    ask (.free pressure)
    freePressure rest

def tellFirstByte (firstByte : Char) : Action Unit := do
  ask (.print (.firstByte firstByte))
  if firstByte ≠ 'P' then
    ask (.print .contentTaken)
  else
    ask (.print .contentThere)

/-- The way through the demo once it has its region. -/
def useRegion (offsets : List UInt64) : Action Unit := do
  storePages .region 'P' offsets
  let _ ← ask (.vmPurgableControl .nonvolatile)
  ask .printMemoryInfo
  ask .waitForUser
  let pressureBuffers ← allocatePressure 5 []
  tellFirstByte (← ask (.load .region 0))
  ask .printMemoryInfo
  ask .waitForUser
  freePressure pressureBuffers
  ask .vmDeallocate

/-- A loop over the pages whose index wraps would not end. -/
def demoPurgeableMemory (sizeMb : UInt64) : Action Unit := do
  if (← ask (.vmAllocate (sizeBytes sizeMb))) = false then
    return ()
  let some offsets := pageOffsets (sizeBytes sizeMb)
    | Program.halt
  useRegion offsets

def readBack : Action Unit := do
  if (← ask .beginContentAccess) = true then
    if (← ask .mutableBytes) = true then
      let byte ← ask (.load .data 0)
      ask (.print (.firstByte byte))
    else
      ask (.print .noBuffer)
    ask .endContentAccess
  else
    ask (.print .dataTaken)

/-- The way through the demo once the data can be written to. -/
def useData (offsets : List UInt64) : Action Unit := do
  storePages .data 'N' offsets
  ask .printMemoryInfo
  ask .waitForUser
  ask .endContentAccess
  let pressureBuffers ← allocatePressure 5 []
  readBack
  ask .printMemoryInfo
  ask .waitForUser
  freePressure pressureBuffers

/-- The object outlives the demo: nothing has put it into the autorelease pool. -/
def demoPurgeableData (sizeMb : UInt64) : Action Unit := do
  if (← ask (.initWithLength (sizeBytes sizeMb))) = false then
    return ()
  if (← ask .beginContentAccess) = false then
    return ()
  if (← ask .mutableBytes) = false then
    ask .endContentAccess
    return ()
  let some offsets := pageOffsets (sizeBytes sizeMb)
    | Program.halt
  useData offsets

structure Block where
  size : UInt64
  bytes : UInt64 → Char

def Block.zeros (size : UInt64) : Block := ⟨size, fun _ => '\x00'⟩

structure Region where
  block : Block
  state : PurgableState

/-- An object counts the accesses that have begun and not ended. -/
structure Data where
  content : Option Block
  accesses : Nat

structure Memory where
  region : Option Region
  data : Option Data
  messages : List Message

/-- What the process can get at. The bytes of an object have to be accessed first. -/
def Memory.reach (memory : Memory) : Buffer → Option Block
  | .region => memory.region.map Region.block
  | .data => memory.data.bind fun data => if 0 < data.accesses then data.content else none

def Memory.put (memory : Memory) (block : Block) : Buffer → Memory
  | .region => { memory with region := memory.region.map fun region => { region with block } }
  | .data => { memory with data := memory.data.map fun data => { data with content := some block } }

/-- The system may take the pages of a volatile region, and what an object holds while no
access to it has begun. -/
inductive Takes (memory : Memory) : Memory → Prop where
  | nothing : Takes memory memory
  | region {region : Region} (there : memory.region = some region)
      (volatile : region.state = .volatile) :
      Takes memory { memory with region := some ⟨.zeros region.block.size, .empty⟩ }
  | data {data : Data} (there : memory.data = some data) (loose : data.accesses = 0) :
      Takes memory { memory with data := some { data with content := none } }

/-- The calls by themselves; `initial` is the number of accesses that a new object begins with. -/
def Acts (initial : Nat) (memory : Memory) : Exchange Call Answer → Memory → Prop
  | ⟨.vmAllocate size, allocated⟩, after =>
    after = if allocated then { memory with region := some ⟨.zeros size, .nonvolatile⟩ } else memory
  | ⟨.vmPurgableControl state, controlled⟩, after => ∃ region, memory.region = some region ∧
    after = if controlled then { memory with region := some { region with state } } else memory
  | ⟨.vmDeallocate, _⟩, after => memory.region ≠ none ∧ after = { memory with region := none }
  | ⟨.initWithLength size, created⟩, after =>
    after = if created then { memory with data := some ⟨some (.zeros size), initial⟩ } else memory
  | ⟨.beginContentAccess, begun⟩, after => ∃ data, memory.data = some data ∧
    begun = data.content.isSome ∧
      after = if begun then
        { memory with data := some { data with accesses := data.accesses + 1 } } else memory
  | ⟨.mutableBytes, _⟩, after => memory.reach .data ≠ none ∧ after = memory
  | ⟨.endContentAccess, _⟩, after => ∃ data, memory.data = some data ∧ 0 < data.accesses ∧
    after = { memory with data := some { data with accesses := data.accesses - 1 } }
  | ⟨.store buffer offset byte, _⟩, after => ∃ block, memory.reach buffer = some block ∧
    offset < block.size ∧
      after = memory.put { block with bytes := Function.update block.bytes offset byte } buffer
  | ⟨.load buffer offset, byte⟩, after => ∃ block, memory.reach buffer = some block ∧
    offset < block.size ∧ byte = block.bytes offset ∧ after = memory
  | ⟨.print message, _⟩, after => after = { memory with messages := memory.messages ++ [message] }
  | ⟨.malloc _, _⟩, after | ⟨.fillPages _, _⟩, after | ⟨.free _, _⟩, after => after = memory
  | ⟨.printMemoryInfo, _⟩, after | ⟨.waitForUser, _⟩, after => after = memory

/-- Before every call the system may have taken something. -/
def system (initial : Nat) : Host Call Answer Memory := fun memory exchange after =>
  ∃ middle, Takes memory middle ∧ Acts initial middle exchange after

section Rules
variable {initial : Nat} {memory : Memory}

theorem put_reach {buffer : Buffer} {block : Block} (reached : memory.reach buffer = some block) :
    memory.put block buffer = memory := by
  obtain ⟨region, data, messages⟩ := memory
  cases buffer with
  | region =>
    obtain ⟨found, rfl, rfl⟩ := Option.map_eq_some_iff.mp reached
    rfl
  | data =>
    obtain ⟨found, rfl, content⟩ := Option.bind_eq_some_iff.mp reached
    obtain ⟨-, content⟩ := Option.ite_none_right_eq_some.mp content
    obtain ⟨held, accesses⟩ := found
    cases content
    rfl

theorem reach_put {buffer : Buffer} {block : Block} (reached : memory.reach buffer = some block)
    (other : Block) : (memory.put other buffer).reach buffer = some other := by
  obtain ⟨region, data, messages⟩ := memory
  cases buffer with
  | region =>
    obtain ⟨found, rfl, rfl⟩ := Option.map_eq_some_iff.mp reached
    rfl
  | data =>
    obtain ⟨found, rfl, content⟩ := Option.bind_eq_some_iff.mp reached
    exact if_pos (Option.ite_none_right_eq_some.mp content).1

theorem put_put (buffer : Buffer) (first second : Block) :
    (memory.put first buffer).put second buffer = memory.put second buffer := by
  obtain ⟨region, data, messages⟩ := memory
  cases buffer with
  | region => cases region <;> rfl
  | data => cases data <;> rfl

/-- Nothing that the system may take. -/
structure Pinned (memory : Memory) : Prop where
  region : ∀ region, memory.region = some region → region.state ≠ .volatile
  data : ∀ data, memory.data = some data → 0 < data.accesses

theorem pinned_nothing (messages : List Message) : Pinned ⟨none, none, messages⟩ :=
  ⟨nofun, nofun⟩

theorem pinned_region (block : Block) (messages : List Message) :
    Pinned ⟨some ⟨block, .nonvolatile⟩, none, messages⟩ := by
  refine ⟨fun region there => ?_, nofun⟩
  cases there
  exact PurgableState.noConfusion

theorem Pinned.put (pinned : Pinned memory) (block : Block) (buffer : Buffer) :
    Pinned (memory.put block buffer) := by
  cases buffer with
  | region =>
    refine ⟨fun region there => ?_, pinned.data⟩
    obtain ⟨found, before, rfl⟩ := Option.map_eq_some_iff.mp there
    exact pinned.region found before
  | data =>
    refine ⟨pinned.region, fun data there => ?_⟩
    obtain ⟨found, before, rfl⟩ := Option.map_eq_some_iff.mp there
    exact pinned.data found before

theorem Pinned.takes (pinned : Pinned memory) {after : Memory} (takes : Takes memory after) :
    after = memory := by
  cases takes with
  | nothing => rfl
  | region there isVolatile => exact absurd isVolatile (pinned.region _ there)
  | data there loose => exact absurd loose (Nat.pos_iff_ne_zero.mp (pinned.data _ there))

/-- A call while the system has nothing to take. -/
theorem sure_pinned (pinned : Pinned memory) {request : Call}
    {post : Answer request → Memory → Prop}
    (able : ∃ answer after, Acts initial memory ⟨request, answer⟩ after)
    (holds : ∀ answer after, Acts initial memory ⟨request, answer⟩ after → post answer after) :
    Sure (system initial) never (ask request) memory post := by
  rw [sure_ask]
  constructor
  · obtain ⟨answer, after, acts⟩ := able
    exact ⟨answer, after, memory, .nothing, acts⟩
  · rintro answer after ⟨middle, takes, acts⟩
    rw [pinned.takes takes] at acts
    exact holds answer after acts

theorem storePages_sure (pinned : Pinned memory) {buffer : Buffer} {block : Block} (byte : Char)
    {offsets : List UInt64} (reached : memory.reach buffer = some block)
    (inside : ∀ offset ∈ offsets, offset < block.size) :
    Sure (system initial) never (storePages buffer byte offsets) memory fun _ after =>
      ∃ filled : Block, after = memory.put filled buffer ∧ filled.size = block.size ∧
        ∀ offset, filled.bytes offset = if offset ∈ offsets then byte else block.bytes offset := by
  induction offsets generalizing memory block with
  | nil => exact ⟨block, (put_reach reached).symm, rfl, fun offset => rfl⟩
  | cons offset rest ih =>
    unfold storePages
    rw [sure_bind]
    have here := inside offset (List.mem_cons_self ..)
    apply sure_pinned pinned
    · exact ⟨(), _, block, reached, here, rfl⟩
    rintro answer after ⟨found, again, -, rfl⟩
    cases reached.symm.trans again
    refine Sure.mono (ih (pinned.put _ buffer) (reach_put reached _)
      fun other among => inside other (List.mem_cons_of_mem _ among)) ?_
    rintro value after ⟨filled, rfl, size, bytes⟩
    refine ⟨filled, put_put buffer _ filled, size, fun other => ?_⟩
    rw [bytes]
    by_cases late : other ∈ rest
    · rw [if_pos late, if_pos (List.mem_cons_of_mem _ late)]
    · rw [if_neg late]
      by_cases same : other = offset
      · rw [if_pos (List.mem_cons.mpr (Or.inl same)), same]
        exact Function.update_self offset byte block.bytes
      · rw [if_neg (List.not_mem_cons_of_ne_of_not_mem same late)]
        exact Function.update_of_ne same byte block.bytes

/-- What the system may take leaves the property alone. -/
def Stable (property : Memory → Prop) : Prop :=
  ∀ memory after, property memory → Takes memory after → property after

theorem Pinned.stable (pinned : Pinned memory) : Stable (· = memory) := by
  rintro _ after rfl takes
  exact pinned.takes takes

/-- The calls that do nothing to the contents. -/
def Call.isIdle : Call → Bool
  | .malloc _ | .fillPages _ | .free _ | .printMemoryInfo | .waitForUser => true
  | _ => false

variable {property : Memory → Prop}

theorem sure_idle (stable : Stable property) (here : property memory) {request : Call}
    (idle : request.isIdle = true) :
    Sure (system initial) never (ask request) memory fun _ after => property after := by
  rw [sure_ask]
  have acts (answer : Answer request) (memory after : Memory) :
      Acts initial memory ⟨request, answer⟩ after ↔ after = memory := by
    cases request with
    | malloc | fillPages | free | printMemoryInfo | waitForUser => exact Iff.rfl
    | _ => cases idle
  have answered : Nonempty (Answer request) := by
    cases request with
    | malloc => exact ⟨none⟩
    | fillPages | free | printMemoryInfo | waitForUser => exact ⟨()⟩
    | _ => cases idle
  obtain ⟨answer⟩ := answered
  refine ⟨⟨answer, memory, memory, .nothing, (acts answer memory memory).mpr rfl⟩, ?_⟩
  rintro answer after ⟨middle, takes, acted⟩
  rw [(acts answer middle after).mp acted]
  exact stable memory middle here takes

/-- The demo shows the state of its memory and waits. -/
theorem sure_pause {α : Type} {next : Action α} {post : α → Memory → Prop}
    (stable : Stable property) (here : property memory)
    (rest : ∀ after, property after → Sure (system initial) never next after post) :
    Sure (system initial) never (do ask .printMemoryInfo; ask .waitForUser; next) memory post := by
  rw [sure_bind]
  apply (sure_idle stable here rfl).mono
  intro value middle there
  rw [sure_bind]
  apply (sure_idle stable there rfl).mono
  intro value after there
  exact rest after there

theorem sure_print (stable : Stable property) (here : property memory) (message : Message) :
    Sure (system initial) never (ask (.print message)) memory fun _ after =>
      ∃ before, property before ∧
        after = { before with messages := before.messages ++ [message] } := by
  rw [sure_ask]
  refine ⟨⟨(), _, memory, .nothing, rfl⟩, ?_⟩
  rintro answer after ⟨middle, takes, rfl⟩
  exact ⟨middle, stable memory middle here takes, rfl⟩

theorem allocatePressure_sure (stable : Stable property) (here : property memory) (rounds : Nat)
    (pressureBuffers : List Nat) :
    Sure (system initial) never (allocatePressure rounds pressureBuffers) memory
      fun _ after => property after := by
  induction rounds generalizing memory pressureBuffers with
  | zero => exact here
  | succ rounds ih =>
    unfold allocatePressure
    rw [sure_bind]
    apply (sure_idle stable here rfl).mono
    intro pressure after there
    cases pressure with
    | none => exact there
    | some pressure =>
      rw [sure_bind]
      apply (sure_idle stable there rfl).mono
      intro value last done
      exact ih done _

theorem freePressure_sure (stable : Stable property) (here : property memory)
    (pressureBuffers : List Nat) :
    Sure (system initial) never (freePressure pressureBuffers) memory
      fun _ after => property after := by
  induction pressureBuffers generalizing memory with
  | nil => exact here
  | cons pressure rest ih =>
    unfold freePressure
    rw [sure_bind]
    apply (sure_idle stable here rfl).mono
    intro value after there
    exact ih there

end Rules

section Demos
variable (initial : Nat) (sizeMb : UInt64) (messages : List Message)

/-- The offset of the byte that is looked at is one of those that the loop writes to. -/
theorem firstOffset {offsets : List UInt64} (filled : sizeBytes sizeMb ≠ 0)
    (member : ∀ offset, offset ∈ offsets ↔ offset < sizeBytes sizeMb ∧ 4096 ∣ offset.toNat) :
    (0 : UInt64) < sizeBytes sizeMb ∧ 0 ∈ offsets := by
  have positive := UInt64.pos_iff_ne_zero.mpr filled
  exact ⟨positive, (member 0).mpr ⟨positive, by simp⟩⟩

theorem tellFirstByte_sure (block : Block) (messages : List Message) :
    Sure (system initial) never (tellFirstByte 'P') ⟨some ⟨block, .nonvolatile⟩, none, messages⟩
      fun _ after => after =
        ⟨some ⟨block, .nonvolatile⟩, none, messages ++ [.firstByte 'P', .contentThere]⟩ := by
  unfold tellFirstByte
  rw [sure_bind, if_neg (not_not.mpr rfl)]
  apply (sure_print (pinned_region _ _).stable rfl _).mono
  rintro value _ ⟨_, rfl, rfl⟩
  apply (sure_print (pinned_region _ _).stable rfl _).mono
  rintro value _ ⟨_, rfl, rfl⟩
  rw [List.append_assoc]
  rfl

/-- The region stays pinned until it is given back. -/
theorem useRegion_sure {block : Block} {offsets : List UInt64} (positive : 0 < block.size)
    (inside : ∀ offset ∈ offsets, offset < block.size) (first : 0 ∈ offsets) :
    Sure (system initial) never (useRegion offsets) ⟨some ⟨block, .nonvolatile⟩, none, messages⟩
      fun _ after => after = ⟨none, none, messages ++ [.firstByte 'P', .contentThere]⟩ := by
  unfold useRegion
  rw [sure_bind]
  refine Sure.mono (storePages_sure (pinned_region _ _) 'P' rfl inside) ?_
  rintro value after ⟨stored, rfl, size, bytes⟩
  have byte : stored.bytes 0 = 'P' := by rw [bytes, if_pos first]
  rw [sure_bind]
  apply sure_pinned (pinned_region stored messages)
  · exact ⟨false, _, _, rfl, rfl⟩
  rintro controlled after ⟨region, there, same⟩
  cases there
  have unchanged : after = ⟨some ⟨stored, .nonvolatile⟩, none, messages⟩ := by
    rw [same]
    cases controlled <;> rfl
  rw [unchanged]
  have stable := (pinned_region stored messages).stable
  apply sure_pause stable rfl
  rintro _ rfl
  rw [sure_bind]
  apply (allocatePressure_sure stable rfl 5 []).mono
  rintro pressureBuffers _ rfl
  rw [sure_bind]
  apply sure_pinned (pinned_region stored messages)
  · exact ⟨_, _, stored, rfl, size ▸ positive, rfl, rfl⟩
  rintro firstByte _ ⟨found, there, -, rfl, rfl⟩
  cases there
  rw [sure_bind, byte]
  apply (tellFirstByte_sure initial stored messages).mono
  rintro value _ rfl
  have stable := (pinned_region stored (messages ++ [.firstByte 'P', .contentThere])).stable
  apply sure_pause stable rfl
  rintro _ rfl
  rw [sure_bind]
  apply (freePressure_sure stable rfl pressureBuffers).mono
  rintro value _ rfl
  apply sure_pinned (pinned_region _ _)
  · exact ⟨(), _, nofun, rfl⟩
  rintro value after ⟨-, rfl⟩
  rfl

/-- The object while no access is under way: it is empty only if it began with none. -/
def Loose (block : Block) (memory : Memory) : Prop :=
  ∃ content, memory = ⟨none, some ⟨content, initial⟩, messages⟩ ∧
    (content = some block ∨ content = none ∧ initial = 0)

theorem loose_stable (block : Block) : Stable (Loose initial messages block) := by
  rintro _ after ⟨content, rfl, kept⟩ takes
  cases takes with
  | nothing => exact ⟨content, rfl, kept⟩
  | region there => cases there
  | data there loose =>
    cases there
    exact ⟨none, rfl, Or.inr ⟨rfl, loose⟩⟩

theorem pinned_data (block : Block) :
    Pinned ⟨none, some ⟨some block, initial + 1⟩, messages⟩ := by
  refine ⟨nofun, fun data there => ?_⟩
  cases there
  exact Nat.succ_pos initial

theorem reach_data (block : Block) :
    Memory.reach ⟨none, some ⟨some block, initial + 1⟩, messages⟩ .data = some block := by
  change (if 0 < initial + 1 then some block else none) = some block
  exact if_pos (Nat.succ_pos initial)

variable {initial messages}

theorem sure_beginContentAccess {memory : Memory} {block : Block}
    (loose : Loose initial messages block memory) {post : Bool → Memory → Prop}
    (taken : initial = 0 → post false ⟨none, some ⟨none, initial⟩, messages⟩)
    (begun : post true ⟨none, some ⟨some block, initial + 1⟩, messages⟩) :
    Sure (system initial) never (ask .beginContentAccess) memory post := by
  rw [sure_ask]
  constructor
  · obtain ⟨content, rfl, -⟩ := loose
    exact ⟨content.isSome, _, _, .nothing, _, rfl, rfl, rfl⟩
  · rintro answer after ⟨middle, takes, data, there, rfl, rfl⟩
    obtain ⟨content, rfl, kept⟩ := loose_stable initial messages block memory middle loose takes
    cases there
    rcases kept with rfl | ⟨rfl, zero⟩
    · exact begun
    · exact taken zero

theorem sure_endContentAccess {block : Block} {post : Unit → Memory → Prop}
    (ended : post () ⟨none, some ⟨some block, initial⟩, messages⟩) :
    Sure (system initial) never (ask .endContentAccess)
      ⟨none, some ⟨some block, initial + 1⟩, messages⟩ post := by
  apply sure_pinned (pinned_data initial messages block)
  · exact ⟨(), _, _, rfl, Nat.succ_pos initial, rfl⟩
  · rintro answer after ⟨data, there, -, rfl⟩
    cases there
    exact ended

theorem sure_mutableBytes {block : Block} {post : Bool → Memory → Prop}
    (answered : ∀ given, post given ⟨none, some ⟨some block, initial + 1⟩, messages⟩) :
    Sure (system initial) never (ask .mutableBytes)
      ⟨none, some ⟨some block, initial + 1⟩, messages⟩ post := by
  apply sure_pinned (pinned_data initial messages block)
  · exact ⟨false, _, nofun, rfl⟩
  · rintro given after ⟨-, rfl⟩
    exact answered given

/-- What is left of the object and what has been printed about its contents. -/
def Leaves (initial : Nat) (messages : List Message) (after : Memory) : Prop :=
  ∃ seen content, after = ⟨none, some ⟨content, initial⟩, messages ++ seen⟩ ∧
    (content = none → initial = 0) ∧
    (seen = [] ∨ seen = [.firstByte 'N'] ∨ seen = [.noBuffer] ∨
      seen = [.dataTaken] ∧ content = none)

/-- What has been seen of the contents, unless they have been taken. -/
def Seen (initial : Nat) (messages : List Message) (block : Block) (memory : Memory) : Prop :=
  (∃ seen, (seen = [.firstByte 'N'] ∨ seen = [.noBuffer]) ∧
    Loose initial (messages ++ seen) block memory) ∨
  initial = 0 ∧ memory = ⟨none, some ⟨none, initial⟩, messages ++ [.dataTaken]⟩

/-- From an object without its contents nothing more can be taken. -/
theorem taken_stable (messages : List Message) :
    Stable (· = ⟨none, some ⟨none, initial⟩, messages⟩) := by
  rintro _ after rfl takes
  cases takes with
  | nothing => rfl
  | region there => cases there
  | data there loose =>
    cases there
    rfl

theorem seen_stable (block : Block) : Stable (Seen initial messages block) := by
  rintro memory after (⟨seen, printed, loose⟩ | ⟨zero, rfl⟩) takes
  · exact Or.inl ⟨seen, printed, loose_stable initial _ block memory after loose takes⟩
  · exact Or.inr ⟨zero, taken_stable _ _ after rfl takes⟩

theorem Seen.leaves {block : Block} {memory : Memory} (seen : Seen initial messages block memory) :
    Leaves initial messages memory := by
  rcases seen with ⟨seen, printed, content, rfl, rfl | ⟨rfl, zero⟩⟩ | ⟨zero, rfl⟩
  · exact ⟨seen, _, rfl, nofun, Or.inr (printed.imp_right Or.inl)⟩
  · exact ⟨seen, none, rfl, fun _ => zero, Or.inr (printed.imp_right Or.inl)⟩
  · exact ⟨_, none, rfl, fun _ => zero, Or.inr (Or.inr (Or.inr ⟨rfl, rfl⟩))⟩

theorem readBack_sure {memory : Memory} {block : Block}
    (loose : Loose initial messages block memory) (positive : 0 < block.size)
    (byte : block.bytes 0 = 'N') :
    Sure (system initial) never readBack memory
      fun _ after => Seen initial messages block after := by
  have printed (message : Message) (shown : message = .firstByte 'N' ∨ message = .noBuffer) :
      Sure (system initial) never (do ask (.print message); ask .endContentAccess)
        ⟨none, some ⟨some block, initial + 1⟩, messages⟩ fun _ after =>
          Seen initial messages block after := by
    rw [sure_bind]
    apply (sure_print (pinned_data initial messages block).stable rfl message).mono
    rintro value _ ⟨_, rfl, rfl⟩
    apply sure_endContentAccess
    refine Or.inl ⟨[message], ?_, some block, rfl, Or.inl rfl⟩
    exact shown.imp (congrArg (fun message => [message])) (congrArg fun message => [message])
  unfold readBack
  rw [sure_bind]
  apply sure_beginContentAccess loose
  · intro zero
    apply (sure_print (taken_stable messages) rfl .dataTaken).mono
    rintro value _ ⟨_, rfl, rfl⟩
    exact Or.inr ⟨zero, rfl⟩
  · rw [if_pos rfl, sure_bind]
    apply sure_mutableBytes
    intro given
    cases given with
    | false => exact printed .noBuffer (Or.inr rfl)
    | true =>
      rw [if_pos rfl, sure_bind]
      apply sure_pinned (pinned_data initial messages block)
      · exact ⟨_, _, block, reach_data initial messages block, positive, rfl, rfl⟩
      rintro firstByte _ ⟨found, there, -, rfl, rfl⟩
      cases there
      rw [byte]
      exact printed (.firstByte 'N') (Or.inl rfl)

theorem useData_sure {block : Block} {offsets : List UInt64} (positive : 0 < block.size)
    (inside : ∀ offset ∈ offsets, offset < block.size) (first : 0 ∈ offsets) :
    Sure (system initial) never (useData offsets)
      ⟨none, some ⟨some block, initial + 1⟩, messages⟩
        fun _ after => Leaves initial messages after := by
  unfold useData
  rw [sure_bind]
  refine Sure.mono (storePages_sure (pinned_data initial messages block) 'N'
    (reach_data initial messages block) inside) ?_
  rintro value _ ⟨stored, rfl, size, bytes⟩
  have byte : stored.bytes 0 = 'N' := by rw [bytes, if_pos first]
  have pinned := (pinned_data initial messages stored).stable
  apply sure_pause pinned rfl
  rintro _ rfl
  rw [sure_bind]
  apply sure_endContentAccess
  -- from here on the contents are there to be taken, if the object began with no access
  rw [sure_bind]
  apply (allocatePressure_sure (loose_stable initial messages stored)
    ⟨some stored, rfl, Or.inl rfl⟩ 5 []).mono
  intro pressureBuffers memory loose
  rw [sure_bind]
  apply (readBack_sure loose (size ▸ positive) byte).mono
  intro value memory seen
  apply sure_pause (seen_stable stored) seen
  intro memory seen
  apply (freePressure_sure (seen_stable stored) seen pressureBuffers).mono
  intro value memory seen
  exact seen.leaves

variable (initial messages) in
theorem demoPurgeableData_sure (filled : sizeBytes sizeMb ≠ 0) :
    Sure (system initial) never (demoPurgeableData sizeMb) ⟨none, none, messages⟩ fun _ after =>
      after = ⟨none, none, messages⟩ ∨ Leaves initial messages after := by
  obtain ⟨offsets, listed, member⟩ := pageOffsets_spec sizeMb
  obtain ⟨positive, first⟩ := firstOffset sizeMb filled member
  have untouched (content : Option Block) (kept : content = none → initial = 0) :
      Leaves initial messages ⟨none, some ⟨content, initial⟩, messages⟩ :=
    ⟨[], content, by rw [List.append_nil], kept, Or.inl rfl⟩
  unfold demoPurgeableData
  rw [sure_bind]
  apply sure_pinned (pinned_nothing messages)
  · exact ⟨false, _, rfl⟩
  rintro created after rfl
  cases created with
  | false => exact Or.inl rfl
  | true =>
    simp only [reduceIte, Bool.true_eq_false]
    rw [sure_bind]
    refine sure_beginContentAccess ⟨_, rfl, Or.inl rfl⟩ ?_ ?_
    · intro zero
      exact Or.inr (untouched none fun _ => zero)
    · simp only [Bool.true_eq_false, reduceIte]
      rw [sure_bind]
      apply sure_mutableBytes
      intro given
      cases given with
      | false =>
        rw [if_pos rfl, sure_bind]
        apply sure_endContentAccess
        exact Or.inr (untouched _ nofun)
      | true =>
        simp only [Bool.true_eq_false, reduceIte, listed]
        apply (useData_sure positive (fun offset among => ((member offset).mp among).1) first).mono
        intro value memory leaves
        exact Or.inr leaves

/-- An idle call while the system leaves everything. -/
theorem can_idle {memory : Memory} {request : Call} (answer : Answer request)
    (idle : request.isIdle = true) {post : Answer request → Memory → Prop}
    (holds : post answer memory) : Can (system initial) (ask request) memory post := by
  cases request with
  | malloc | fillPages | free | printMemoryInfo | waitForUser =>
    exact can_ask ⟨memory, .nothing, rfl⟩ holds
  | _ => cases idle

/-- What the demo can read back while the system leaves everything. -/
theorem readBack_can {block : Block} (positive : 0 < block.size) (byte : block.bytes 0 = 'N') :
    Can (system initial) readBack ⟨none, some ⟨some block, initial⟩, messages⟩
      fun _ after =>
        after = ⟨none, some ⟨some block, initial⟩, messages ++ [.firstByte 'N']⟩ := by
  have reached := reach_data initial messages block
  unfold readBack
  rw [can_bind]
  refine ⟨true, _, ⟨_, .nothing, _, rfl, rfl, rfl⟩, ?_⟩
  change Can (system initial) (ask .mutableBytes >>= _)
    ⟨none, some ⟨some block, initial + 1⟩, messages⟩ _
  rw [can_bind]
  refine ⟨true, _, ⟨_, .nothing, by rw [reached]; exact nofun, rfl⟩, ?_⟩
  change Can (system initial) (ask (.load .data 0) >>= _) _ _
  rw [can_bind]
  refine ⟨'N', _, ⟨_, .nothing, block, reached, positive, byte.symm, rfl⟩, ?_⟩
  change Can (system initial) (ask (.print (.firstByte 'N')) >>= _) _ _
  rw [can_bind]
  refine ⟨(), _, ⟨_, .nothing, rfl⟩, ?_⟩
  exact (sure_endContentAccess rfl).can

theorem useData_can {block : Block} {offsets : List UInt64} (positive : 0 < block.size)
    (inside : ∀ offset ∈ offsets, offset < block.size) (first : 0 ∈ offsets) :
    Can (system initial) (useData offsets) ⟨none, some ⟨some block, initial + 1⟩, messages⟩
      fun _ after => ∃ content,
        after = ⟨none, some ⟨some content, initial⟩, messages ++ [.firstByte 'N']⟩ := by
  unfold useData
  rw [can_bind]
  refine (Sure.can (storePages_sure (pinned_data initial messages block) 'N'
    (reach_data initial messages block) inside)).mono ?_
  rintro value _ ⟨stored, rfl, size, bytes⟩
  have byte : stored.bytes 0 = 'N' := by rw [bytes, if_pos first]
  rw [can_bind]
  apply can_idle () rfl
  rw [can_bind]
  apply can_idle () rfl
  rw [can_bind]
  have ended : Sure (system initial) never (ask .endContentAccess)
      ⟨none, some ⟨some stored, initial + 1⟩, messages⟩
      fun _ after => after = ⟨none, some ⟨some stored, initial⟩, messages⟩ :=
    sure_endContentAccess rfl
  refine ended.can.mono ?_
  rintro value _ rfl
  rw [can_bind]
  -- no block of memory pressure is granted
  refine ⟨none, _, ⟨_, .nothing, rfl⟩, ?_⟩
  change Can (system initial) (readBack >>= fun _ =>
    ask .printMemoryInfo >>= fun _ => ask .waitForUser >>= fun _ => freePressure []) _ _
  rw [can_bind]
  refine (readBack_can (size ▸ positive) byte).mono ?_
  rintro value _ rfl
  rw [can_bind]
  apply can_idle () rfl
  rw [can_bind]
  apply can_idle () rfl
  exact ⟨stored, rfl⟩

variable (initial messages) in
theorem demoPurgeableData_can (filled : sizeBytes sizeMb ≠ 0) :
    Can (system initial) (demoPurgeableData sizeMb) ⟨none, none, messages⟩
      fun _ after => ∃ content,
        after = ⟨none, some ⟨some content, initial⟩, messages ++ [.firstByte 'N']⟩ := by
  obtain ⟨offsets, listed, member⟩ := pageOffsets_spec sizeMb
  obtain ⟨positive, first⟩ := firstOffset sizeMb filled member
  have rest : Can (system initial) (useData offsets)
      ⟨none, some ⟨some (.zeros (sizeBytes sizeMb)), initial + 1⟩, messages⟩ _ :=
    useData_can positive (fun offset among => ((member offset).mp among).1) first
  unfold demoPurgeableData
  rw [can_bind]
  refine ⟨true, _, ⟨_, .nothing, rfl⟩, ?_⟩
  change Can (system initial) (ask .beginContentAccess >>= _)
    ⟨none, some ⟨some (.zeros (sizeBytes sizeMb)), initial⟩, messages⟩ _
  rw [can_bind]
  refine ⟨true, _, ⟨_, .nothing, _, rfl, rfl, rfl⟩, ?_⟩
  change Can (system initial) (ask .mutableBytes >>= _)
    ⟨none, some ⟨some (.zeros (sizeBytes sizeMb)), initial + 1⟩, messages⟩ _
  rw [can_bind]
  refine ⟨true, _, ⟨_, .nothing, by rw [reach_data]; exact nofun, rfl⟩, ?_⟩
  simp only [listed]
  exact rest

end Demos

/-- The bytes of the object are touched only while an access is under way, and every access that
has begun ends. What is read is what was written; the data is found taken only if it has been,
and that takes an object that begins with no access. -/
theorem demoPurgeableData_contents (initial : Nat) (sizeMb : UInt64)
    (filled : sizeBytes sizeMb ≠ 0) (messages : List Message) :
    (Sure (system initial) never (demoPurgeableData sizeMb) ⟨none, none, messages⟩
      fun _ after => after = ⟨none, none, messages⟩ ∨ Leaves initial messages after) ∧
    Can (system initial) (demoPurgeableData sizeMb) ⟨none, none, messages⟩
      fun _ after => ∃ content, after =
        ⟨none, some ⟨some content, initial⟩, messages ++ [.firstByte 'N']⟩ :=
  ⟨demoPurgeableData_sure initial sizeMb messages filled,
    demoPurgeableData_can initial sizeMb messages filled⟩

theorem demoPurgeableData_contents_main :
    Sure (system 1) never (demoPurgeableData 100) ⟨none, none, []⟩
      (fun _ after => after = ⟨none, none, []⟩ ∨ Leaves 1 [] after) ∧
    (∀ last, Runs (system 1) (demoPurgeableData 100) ⟨none, none, []⟩ last (some ()) →
      last = ⟨none, none, []⟩ ∨ Leaves 1 [] last) ∧
    ∃ content, Runs (system 1) (demoPurgeableData 100) ⟨none, none, []⟩
      ⟨none, some ⟨some content, 1⟩, [.firstByte 'N']⟩ (some ()) := by
  obtain ⟨sure, can⟩ := demoPurgeableData_contents 1 100 (by simp [sizeBytes]) []
  obtain ⟨⟨⟩, last, ran, content, rfl⟩ := can.runs
  exact ⟨sure, fun last ran => sure.run ran, content, ran⟩

end MemoryDemo.Darwin.PurgeableDemos
