import MemoryDemo.Darwin.ActivityDemos
import MemoryDemo.Library.Processes

/-! The demos of the macOS programs with the children that they fork, as processes that run
side by side. The demos of a program run one after another. -/

namespace MemoryDemo.Darwin.DemoFamilies
open Library.CallTree Library.Processes Calls Relation

/-- An answer of `fork` in the words of the library. -/
def outcome : Fork ≃ Forked where
  toFun
    | .failed => .failed
    | .child => .child
    | .parent pid => .parent pid
  invFun
    | .failed => .failed
    | .child => .child
    | .parent pid => .parent pid
  left_inv fork := by cases fork <;> rfl
  right_inv forked := by cases forked <;> rfl

def kind : (request : Call) → Kind (Answer request)
  | .fork => .fork outcome
  | .waitpid pid => .wait pid
  | _ => .plain

/-- Each process has its own memory in this view, so there is nothing that all of them see. -/
def system : System Call Answer Unit where
  kind := kind
  record store _ := store
  answers request := ⟨refuse request⟩

/-- The calls of a child. -/
def childCall : Call → Bool
  | .access _ _ | .msync _ _ | .shmdt _ => true
  | _ => false

/-- One child at a time. -/
def discipline : Discipline system where
  limit := 1
  needs _ _ := true
  beside := childCall
  leaves _ _ _ _ := rfl

def forking : Forking system where
  fork := .fork
  outcome := outcome
  wait := .waitpid
  forks := rfl
  waits _ := rfl
  only := by
    intro request pid waits
    cases request <;> cases waits
    rfl

/-- From a parent without children on, the action keeps to the discipline, leaves no child,
and comes back. -/
structure Joins {α : Type} (action : Action α) : Prop where
  stays : Stays system action
  safe : Safe (joining discipline) action (.parent 0, ()) fun _ now => now = (.parent 0, ())

/-- A child that does the action keeps to the discipline. -/
def Beside {α : Type} (action : Action α) : Prop :=
  Safe (joining discipline) action (.child, ()) fun _ now => now = (.child, ())

section Rules
variable {α β : Type}

theorem joins_pure (value : α) : Joins (pure value : Action α) := ⟨trivial, rfl⟩

theorem Joins.bind {action : Action α} {next : α → Action β} (first : Joins action)
    (rest : ∀ value, Joins (next value)) : Joins (action >>= next) := by
  refine ⟨first.stays.bind fun value => (rest value).stays, (safe_bind _ action next _ _).mpr ?_⟩
  apply first.safe.mono
  intro value now same
  rw [same]
  exact (rest value).safe

theorem joins_ask {request : Call} (plain : system.kind request = .plain) : Joins (ask request) :=
  ⟨fun _ _ => trivial,
    (safe_plain discipline plain).mpr ⟨rfl, rfl, fun _ => rfl⟩⟩

/-- A call with what follows it. -/
theorem joins_call {request : Call} (plain : system.kind request = .plain)
    {next : Answer request → Action β} (rest : ∀ answer, Joins (next answer)) :
    Joins (ask request >>= next) :=
  (joins_ask plain).bind rest

theorem joins_malloc (size : UInt64) : Joins (malloc size) :=
  joins_call rfl fun _ => joins_pure _

theorem joins_mmap (size : UInt64) (prot : Prot) (sharing : Sharing) (fd : Option Nat) :
    Joins (mmap size prot sharing fd) :=
  joins_call rfl fun _ => joins_pure _

theorem joins_shmat (shmid : Nat) : Joins (shmat shmid) :=
  joins_call rfl fun _ => joins_pure _

theorem Beside.bind {action : Action α} {next : α → Action β} (first : Beside action)
    (rest : ∀ value, Beside (next value)) : Beside (action >>= next) := by
  apply (safe_bind _ action next _ _).mpr
  apply first.mono
  intro value now same
  rw [same]
  exact rest value

theorem beside_ask {request : Call} (calls : childCall request = true)
    (plain : system.kind request = .plain) : Beside (ask request) :=
  (safe_child_plain discipline plain).mpr ⟨⟨calls, rfl⟩, fun _ => rfl⟩

/-- The fork with the wait behind it is one step to the rest of the demo. -/
theorem joins_withChild {child parent : Action Unit} (inChild : Beside child)
    (inParent : Joins parent) : Joins (FootprintDemos.withChild child parent) := by
  constructor
  · intro forked notChild
    cases forked with
    | failed => trivial
    | child => exact absurd rfl notChild
    | parent pid => exact fun _ _ => inParent.stays
  · refine (safe_fork discipline forking.forks).mpr ⟨Nat.zero_lt_one, rfl, ?_, ?_⟩
    · -- the child ends in `exit(0)`
      apply (safe_bind _ child _ _ _).mpr
      exact inChild.mono fun _ _ _ => trivial
    · intro pid
      refine (safe_wait discipline (forking.waits pid)).mpr
        ⟨Multiset.mem_cons_self pid 0, fun _ => ?_⟩
      rw [Multiset.erase_cons_head]
      exact inParent.safe

end Rules

section Footprint
open FootprintDemos

theorem mallocDemo_joins (sizeMb : UInt64) : Joins (mallocDemo sizeMb) := by
  apply (joins_malloc _).bind
  intro buffer
  split
  next failed => exact joins_pure ()
  next allocated => exact joins_call rfl fun _ => joins_ask rfl

theorem writeChunks_joins (file count : Nat) : Joins (writeChunks file count) := by
  induction count with
  | zero => exact joins_pure ()
  | succ left ih => exact joins_call rfl fun _ => ih

theorem namedTempFile_joins (start : String) (sizeMb : UInt64) :
    Joins (namedTempFile start sizeMb) := by
  apply joins_call rfl
  intro pid
  apply joins_call rfl
  intro opened
  cases opened with
  | none => exact joins_pure ""
  | some file =>
    exact (writeChunks_joins file _).bind fun _ => joins_call rfl fun _ => joins_pure _

theorem cleanupTempFile_joins (filename : String) : Joins (cleanupTempFile filename) := by
  unfold cleanupTempFile
  split
  next named => exact joins_ask rfl
  next => exact joins_pure ()

theorem demoFileMappedMemory_joins (sizeMb : UInt64) : Joins (demoFileMappedMemory sizeMb) := by
  apply (namedTempFile_joins _ sizeMb).bind
  intro filename
  split
  next => exact joins_pure ()
  apply joins_call rfl
  intro opened
  cases opened with
  | none => exact cleanupTempFile_joins filename
  | some fd =>
    apply (joins_mmap _ _ _ _).bind
    intro mappedMemory
    split
    next failed => exact joins_call rfl fun _ => (cleanupTempFile_joins filename).bind joins_pure
    next mapped =>
      exact joins_call rfl fun _ => joins_call rfl fun _ => joins_call rfl fun _ =>
        cleanupTempFile_joins filename

theorem demoAnonymousMapping_joins (sizeMb : UInt64) : Joins (demoAnonymousMapping sizeMb) := by
  apply (joins_mmap _ _ _ _).bind
  intro mappedMemory
  split
  next failed => exact joins_pure ()
  next mapped => exact joins_call rfl fun _ => joins_ask rfl

theorem allocateChunks_joins (chunkBytes : UInt64) (count : Nat) (chunks : List Ptr) :
    Joins (allocateChunks chunkBytes count chunks) := by
  induction count generalizing chunks with
  | zero => exact joins_pure chunks
  | succ left ih =>
    apply (joins_malloc _).bind
    intro chunk
    split
    next failed => exact joins_pure chunks
    next allocated => exact joins_call rfl fun _ => ih (chunks ++ [chunk])

theorem freeChunks_joins (chunks : List Ptr) : Joins (freeChunks chunks) := by
  induction chunks with
  | nil => exact joins_pure ()
  | cons chunk chunks ih => exact joins_call rfl fun _ => ih

theorem demoMemoryCompression_joins (sizeMb : UInt64) : Joins (demoMemoryCompression sizeMb) := by
  apply (joins_malloc _).bind
  intro buffer
  split
  next failed => exact joins_pure ()
  next allocated =>
    exact joins_call rfl fun _ => (allocateChunks_joins _ _ _).bind fun kept =>
      (freeChunks_joins kept).bind fun _ => joins_ask rfl

theorem demoPageTable_joins (sizeMb chunkSizeKb : UInt64) :
    Joins (demoPageTable sizeMb chunkSizeKb) :=
  (allocateChunks_joins _ _ _).bind freeChunks_joins

theorem readFirst_joins (memory : Resource) : Joins (readFirst memory) :=
  joins_ask rfl

theorem childWrites_beside (memory : Resource) (bytes : UInt64) :
    Beside (childWrites memory bytes) :=
  (beside_ask rfl rfl).bind fun _ => (beside_ask rfl rfl).bind fun _ => beside_ask rfl rfl

/-- The child writes, the parent reads once it has ended. -/
theorem sharing_joins (memory : Resource) (bytes : UInt64) :
    Joins (withChild (childWrites memory bytes) (readFirst memory)) :=
  joins_withChild (childWrites_beside memory bytes) (readFirst_joins memory)

theorem demoAnonymousSharedMemory_joins (sizeMb : UInt64) :
    Joins (demoAnonymousSharedMemory sizeMb) := by
  apply (joins_mmap _ _ _ _).bind
  intro sharedMemory
  split
  next failed => exact joins_pure ()
  next mapped => exact joins_call rfl fun _ => (sharing_joins _ _).bind fun _ => joins_ask rfl

theorem demoSharedMemory_joins (sizeMb : UInt64) : Joins (demoSharedMemory sizeMb) := by
  apply joins_call rfl
  intro pid
  apply joins_call rfl
  intro opened
  cases opened with
  | none => exact joins_pure ()
  | some fd =>
    apply joins_call rfl
    intro truncated
    split
    next short => exact joins_call rfl fun _ => joins_call rfl joins_pure
    next sized =>
      apply (joins_mmap _ _ _ _).bind
      intro sharedMemory
      split
      next failed => exact joins_call rfl fun _ => joins_call rfl joins_pure
      next mapped =>
        exact joins_call rfl fun _ => (sharing_joins _ _).bind fun _ =>
          joins_call rfl fun _ => joins_call rfl fun _ => joins_ask rfl

theorem tryFlags_joins (key : Nat) (currentSize : UInt64) (options : List Nat) :
    Joins (tryFlags key currentSize options) := by
  induction options with
  | nil => exact joins_pure none
  | cons flags rest ih =>
    apply joins_call rfl
    intro answer
    cases answer with
    | none => exact ih
    | some shmid => exact joins_pure (some shmid)

theorem trySizes_joins (key : Nat) (options : List UInt64) : Joins (trySizes key options) := by
  induction options with
  | nil => exact joins_pure none
  | cons currentSize rest ih =>
    apply (tryFlags_joins key currentSize flagsOptions).bind
    intro answer
    cases answer with
    | none => exact ih
    | some shmid => exact joins_pure (some (shmid, currentSize))

theorem removeExisting_joins (key : Nat) : Joins (removeExisting key) := by
  apply joins_call rfl
  intro answer
  cases answer with
  | none => exact joins_pure ()
  | some existingShmid => exact joins_ask rfl

theorem useSegment_joins (shmid : Nat) (currentSize : UInt64) :
    Joins (useSegment shmid currentSize) := by
  apply (joins_shmat _).bind
  intro sharedMemory
  split
  next failed => exact joins_call rfl fun _ => (demoSharedMemory_joins 1).bind joins_pure
  next attached =>
    apply joins_call rfl
    intro _
    apply Joins.bind
    · exact joins_withChild
        ((childWrites_beside _ _).bind fun _ => beside_ask rfl rfl) (readFirst_joins _)
    · exact fun _ => joins_call rfl fun _ => joins_ask rfl

theorem demoSysvSharedMemory_joins (sizeMb : UInt64) : Joins (demoSysvSharedMemory sizeMb) := by
  apply joins_call rfl
  intro checkResult
  apply (removeExisting_joins ipcPrivate).bind
  intro _
  apply (trySizes_joins ipcPrivate sizeOptions).bind
  intro found
  cases found with
  | none => exact joins_call rfl fun _ => joins_call rfl fun _ => demoSharedMemory_joins 1
  | some segment => exact useSegment_joins segment.1 segment.2

theorem footprint_joins (demo : Demo) : Joins demo.action := by
  cases demo with
  | internalMemory sizeMb => exact mallocDemo_joins sizeMb
  | fileMappedMemory sizeMb => exact demoFileMappedMemory_joins sizeMb
  | anonymousMapping sizeMb => exact demoAnonymousMapping_joins sizeMb
  | memoryCompression sizeMb => exact demoMemoryCompression_joins sizeMb
  | pageTable sizeMb chunkSizeKb => exact demoPageTable_joins sizeMb chunkSizeKb
  | anonymousSharedMemory sizeMb => exact demoAnonymousSharedMemory_joins sizeMb
  | sharedMemory sizeMb => exact demoSharedMemory_joins sizeMb
  | sysvSharedMemory sizeMb => exact demoSysvSharedMemory_joins sizeMb
  | purgeableMemory sizeMb => exact mallocDemo_joins sizeMb

end Footprint

section Activity
open ActivityDemos
open FootprintDemos (readFirst)

theorem anonymousSharedDemo_joins (sizeMb : UInt64) : Joins (anonymousSharedDemo sizeMb) := by
  apply (joins_mmap _ _ _ _).bind
  intro sharedMemory
  split
  next failed => exact joins_pure ()
  next mapped => exact joins_call rfl fun _ => (sharing_joins _ _).bind fun _ => joins_ask rfl

theorem demoPurgeableMemory_joins (sizeMb : UInt64) : Joins (demoPurgeableMemory sizeMb) := by
  apply joins_call rfl
  intro allocated
  cases allocated with
  | none => exact joins_pure ()
  | some value =>
    exact joins_call rfl fun _ => joins_call rfl fun _ =>
      (allocateChunks_joins _ _ _).bind fun kept => (readFirst_joins _).bind fun _ =>
        (freeChunks_joins kept).bind fun _ => joins_ask rfl

theorem demoCompressedMemory_joins (sizeMb : UInt64) : Joins (demoCompressedMemory sizeMb) := by
  apply (joins_malloc _).bind
  intro buffer
  split
  next failed => exact joins_pure ()
  next allocated =>
    exact joins_call rfl fun _ => (allocateChunks_joins _ _ _).bind fun kept =>
      (freeChunks_joins kept).bind fun _ => joins_ask rfl

theorem readByte_joins (data : Nat) : Joins (readByte data) := by
  apply joins_call rfl
  intro bytes
  cases bytes with
  | none => exact joins_pure ()
  | some start => exact readFirst_joins _

theorem readBack_joins (data : Nat) : Joins (readBack data) := by
  apply joins_call rfl
  intro begun
  split
  next granted => exact (readByte_joins data).bind fun _ => joins_ask rfl
  next => exact joins_pure ()

theorem useData_joins (data : Nat) (bytes : UInt64) : Joins (useData data bytes) := by
  apply joins_call rfl
  intro begun
  split
  next refused => exact joins_pure ()
  next granted =>
    apply joins_call rfl
    intro start
    cases start with
    | none => exact joins_ask rfl
    | some start =>
      exact joins_call rfl fun _ => joins_call rfl fun _ =>
        (allocateChunks_joins _ _ _).bind fun kept => (readBack_joins data).bind fun _ =>
          freeChunks_joins kept

theorem demoPurgeableData_joins (sizeMb : UInt64) : Joins (demoPurgeableData sizeMb) := by
  apply joins_call rfl
  intro object
  cases object with
  | none => exact joins_pure ()
  | some data => exact useData_joins data _

theorem demoRealMemory_joins (sizeMb : UInt64) : Joins (demoRealMemory sizeMb) := by
  apply (joins_malloc _).bind
  intro privateBuffer
  split
  next failed => exact joins_pure ()
  apply joins_call rfl
  intro _
  apply (joins_mmap _ _ _ _).bind
  intro sharedMemory
  split
  next failed => exact joins_call rfl joins_pure
  apply joins_call rfl
  intro _
  apply joins_call rfl
  intro allocated
  cases allocated with
  | none => exact joins_call rfl fun _ => joins_ask rfl
  | some purgeableAddress =>
    exact joins_call rfl fun _ => joins_call rfl fun _ => joins_call rfl fun _ =>
      joins_call rfl fun _ => joins_ask rfl

/-- The part of the file demos in front of the mapping only cleans up in different ways. -/
theorem fileMappingDemo_joins (template : String) (sharing : Sharing)
    {goOver : Ptr → UInt64 → Action Unit} (visits : ∀ mapped bytes, Joins (goOver mapped bytes))
    (sizeMb : UInt64) : Joins (fileMappingDemo template sharing goOver sizeMb) := by
  apply joins_call rfl
  intro made
  cases made with
  | none => exact joins_pure ()
  | some file =>
    apply joins_call rfl
    intro truncated
    split
    next short => exact joins_call rfl fun _ => joins_call rfl joins_pure
    apply (joins_malloc _).bind
    intro writeBuffer
    split
    next failed => exact joins_call rfl fun _ => joins_call rfl joins_pure
    apply joins_call rfl
    intro _
    apply joins_call rfl
    intro written
    split
    next short =>
      exact joins_call rfl fun _ => joins_call rfl fun _ => joins_call rfl joins_pure
    apply joins_call rfl
    intro _
    apply (joins_mmap _ _ _ _).bind
    intro mappedMemory
    split
    next failed => exact joins_call rfl fun _ => joins_call rfl joins_pure
    next mapped =>
      exact (visits mappedMemory _).bind fun _ => joins_call rfl fun _ =>
        joins_call rfl fun _ => joins_ask rfl

theorem readThenFork_joins (mapped : Ptr) (bytes : UInt64) : Joins (readThenFork mapped bytes) := by
  apply joins_call rfl
  intro _
  exact joins_withChild
    ((childWrites_beside _ _).bind fun _ => beside_ask rfl rfl) (readFirst_joins _)

theorem activity_joins (demo : Demo) : Joins demo.action := by
  cases demo with
  | privateMemory sizeMb => exact mallocDemo_joins sizeMb
  | sharedMemory sizeMb => exact anonymousSharedDemo_joins sizeMb
  | purgeableMemory sizeMb => exact demoPurgeableMemory_joins sizeMb
  | compressedMemory sizeMb => exact demoCompressedMemory_joins sizeMb
  | anonSharedMemoryRprvt sizeMb => exact anonymousSharedDemo_joins sizeMb
  | purgeableData sizeMb => exact demoPurgeableData_joins sizeMb
  | realMemory sizeMb => exact demoRealMemory_joins sizeMb
  | privateFileMapping sizeMb =>
    exact fileMappingDemo_joins _ _ (fun _ _ => joins_call rfl fun _ => joins_ask rfl) sizeMb
  | sharedFileMapping sizeMb => exact fileMappingDemo_joins _ _ readThenFork_joins sizeMb

end Activity

/-- The demos of both programs. -/
inductive Demo where
  | footprint (demo : FootprintDemos.Demo)
  | activity (demo : ActivityDemos.Demo)
  deriving DecidableEq, Repr

def Demo.action : Demo → Action Unit
  | .footprint demo => demo.action
  | .activity demo => demo.action

/-- The body of a `main` that calls the demos one after another. -/
def runDemos : List Demo → Action Unit
  | [] => return ()
  | demo :: demos => do
    demo.action
    runDemos demos

theorem demo_joins (demo : Demo) : Joins demo.action := by
  cases demo with
  | footprint demo => exact footprint_joins demo
  | activity demo => exact activity_joins demo

theorem runDemos_joins (demos : List Demo) : Joins (runDemos demos) := by
  induction demos with
  | nil => exact joins_pure ()
  | cons demo demos ih => exact (demo_joins demo).bind fun _ => ih

/-- The processes before the first demo. -/
def start (demos : List Demo) : Family Call Answer Unit Unit :=
  ⟨(), runDemos demos, []⟩

/-- What is reached by some order of the steps. -/
abbrev Reached (demos : List Demo) : Family Call Answer Unit Unit → Prop :=
  ReflTransGen (Step system) (start demos)

theorem reached_supervised {demos : List Demo} {now : Family Call Answer Unit Unit}
    (reached : Reached demos now) : Supervised discipline (fun _ _ => True) now := by
  apply reachable_supervised reached
  apply Supervised.start (runDemos_joins demos).stays
  apply (runDemos_joins demos).safe.mono
  intro value now same
  rw [same]
  exact ⟨rfl, trivial⟩

/-- While a child lives the parent does nothing but wait for it. -/
structure Exclusive (now : Family Call Answer Unit Unit) : Prop where
  one : now.children.length ≤ 1
  waits : ∀ request next, now.parent = .call request next → now.children ≠ [] →
    ∃ pid program, request = .waitpid pid ∧ now.children = [(pid, program)]
  calls : ∀ pid request next, (pid, .call request next) ∈ now.children →
    childCall request = true
  returned : now.parent = .done () → now.children = []

theorem demos_exclusive (demos : List Demo) {now : Family Call Answer Unit Unit}
    (reached : Reached demos now) : Exclusive now := by
  have supervised := reached_supervised reached
  obtain ⟨store, parent, children⟩ := now
  have one : children.length ≤ 1 := supervised.limit
  refine ⟨one, ?_, ?_, ?_⟩
  · rintro request next rfl living
    exact supervised.stands_at_wait forking rfl living
  · intro pid request next member
    exact (supervised.beside_of_child member).2.1
  · rintro rfl
    exact supervised.returned.1

/-- The mapping succeeds, its pages are written, and the fork gives a child. -/
theorem reached_forked :
    ∃ now, Reached [.footprint (.anonymousSharedMemory 50)] now ∧ now.children.length = 1 := by
  have begun : Reached _ (start [.footprint (.anonymousSharedMemory 50)]) := .refl
  have written := (begun.tail (.parent rfl (some 4096))).tail (.parent rfl ())
  exact ⟨_, written.tail (.fork forking.forks 7 nofun), rfl⟩

theorem demos_exclusive_forked : ∃ now, Reached [.footprint (.anonymousSharedMemory 50)] now ∧
    now.children.length = 1 ∧ Exclusive now := by
  obtain ⟨now, reached, one⟩ := reached_forked
  exact ⟨now, reached, one, demos_exclusive _ reached⟩

/-- As long as the run has not come back, with no child left, some process can go on, and
whatever the order of the steps so far, some order of the further ones comes back. -/
theorem demos_comeBack (demos : List Demo) {now : Family Call Answer Unit Unit}
    (reached : Reached demos now) :
    (now = ⟨(), .done (), []⟩ ∨ ∃ next, Step system now next) ∧
      ReflTransGen (Step system) now ⟨(), .done (), []⟩ := by
  have supervised := reached_supervised reached
  constructor
  · obtain ⟨store, parent, children⟩ := now
    cases supervised.progress with
    | inl moves => exact Or.inr moves
    | inr ended =>
      obtain ⟨rfl, value, rfl, -⟩ := ended
      exact Or.inl rfl
  · obtain ⟨store, value, ends, -⟩ := supervised.ends
    exact ends

theorem demos_comeBack_forked : ∃ now, Reached [.footprint (.anonymousSharedMemory 50)] now ∧
    now.children.length = 1 ∧ ReflTransGen (Step system) now ⟨(), .done (), []⟩ := by
  obtain ⟨now, reached, one⟩ := reached_forked
  exact ⟨now, reached, one, (demos_comeBack _ reached).2⟩

end MemoryDemo.Darwin.DemoFamilies
