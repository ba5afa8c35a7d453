import MemoryDemo.Darwin.FootprintDemos

/-! The demos of `macos/process/activity_monitor_demo.mm`. The target is built without ARC:
an object of Objective-C lives until it is released. -/

namespace MemoryDemo.Darwin.ActivityDemos
open Library.CallTree Library.Ledger Calls
open FootprintDemos (sizeBytes mallocDemo allocateChunks freeChunks withChild readFirst childWrites
  mallocDemo_restores allocateChunks_then freeChunks_keeps withChild_keeps withChild_writes_keeps)

/-- `pressure_chunk` in bytes, 100 MB. -/
def pressureChunk : UInt64 := 100 * 1024 * 1024

def demoPrivateMemory (sizeMb : UInt64) : Action Unit :=
  mallocDemo sizeMb

/-- Two demos share anonymous memory with a child that writes to it. -/
def anonymousSharedDemo (sizeMb : UInt64) : Action Unit := do
  let sharedMemory ← mmap (sizeBytes sizeMb) .readWrite .mapShared none
  if sharedMemory = .mapFailed then
    return ()
  let buffer := Resource.range sharedMemory (sizeBytes sizeMb)
  access buffer (sizeBytes sizeMb)
  withChild (childWrites buffer (sizeBytes sizeMb)) (readFirst buffer)
  munmap sharedMemory (sizeBytes sizeMb)

def demoSharedMemory (sizeMb : UInt64) : Action Unit :=
  anonymousSharedDemo sizeMb

def demoAnonSharedMemoryRprvt (sizeMb : UInt64) : Action Unit :=
  anonymousSharedDemo sizeMb

def demoPurgeableMemory (sizeMb : UInt64) : Action Unit := do
  let some value ← vmAllocate (sizeBytes sizeMb)
    | return ()
  let buffer := Resource.range (.address value) (sizeBytes sizeMb)
  access buffer (sizeBytes sizeMb)
  vmPurgableControl buffer
  let pressureBuffers ← allocateChunks pressureChunk 5 []
  readFirst buffer
  freeChunks pressureBuffers
  vmDeallocate (.address value) (sizeBytes sizeMb)

def demoCompressedMemory (sizeMb : UInt64) : Action Unit := do
  let buffer ← malloc (sizeBytes sizeMb)
  if buffer = .null then
    return ()
  access (.block buffer) (sizeBytes sizeMb)
  let pressureBuffers ← allocateChunks pressureChunk 5 []
  freeChunks pressureBuffers
  free buffer

def readByte (data : Nat) : Action Unit := do
  match ← mutableBytes data with
  | some _ => readFirst (.object data)
  | none => return ()

/-- The second content access, after the memory pressure. -/
def readBack (data : Nat) : Action Unit := do
  if (← beginContentAccess data) = true then
    readByte data
    endContentAccess data

/-- All that `demo_purgeable_data` does with the object once it has it. -/
def useData (data : Nat) (bytes : UInt64) : Action Unit := do
  if (← beginContentAccess data) = false then
    return ()
  let some _ ← mutableBytes data
    | endContentAccess data
  access (.object data) bytes
  endContentAccess data
  let pressureBuffers ← allocateChunks pressureChunk 5 []
  readBack data
  freeChunks pressureBuffers

/-- The end of the autorelease pool releases nothing, since nothing was autoreleased. -/
def demoPurgeableData (sizeMb : UInt64) : Action Unit := do
  let some data ← purgeableData (sizeBytes sizeMb)
    | return ()
  useData data (sizeBytes sizeMb)

def demoRealMemory (sizeMb : UInt64) : Action Unit := do
  let partSize := sizeMb / 3
  let privateBuffer ← malloc (sizeBytes partSize)
  if privateBuffer = .null then
    return ()
  access (.block privateBuffer) (sizeBytes partSize)
  let sharedMemory ← mmap (sizeBytes partSize) .readWrite .mapShared none
  if sharedMemory = .mapFailed then
    free privateBuffer
    return ()
  access (.range sharedMemory (sizeBytes partSize)) (sizeBytes partSize)
  let some purgeableAddress ← vmAllocate (sizeBytes partSize)
    | do
      free privateBuffer
      munmap sharedMemory (sizeBytes partSize)
  let purgeableBuffer := Resource.range (.address purgeableAddress) (sizeBytes partSize)
  access purgeableBuffer (sizeBytes partSize)
  vmPurgableControl purgeableBuffer
  free privateBuffer
  munmap sharedMemory (sizeBytes partSize)
  vmDeallocate (.address purgeableAddress) (sizeBytes partSize)

/-- The file mapping demos: make a file of the size, fill it from a buffer, map it, go over
the mapping, and clean up. A failed `write` is -1, which as a `size_t` is no size either. -/
def fileMappingDemo (template : String) (sharing : Sharing) (goOver : Ptr → UInt64 → Action Unit)
    (sizeMb : UInt64) : Action Unit := do
  let some (fd, tempFilename) ← mkstemp template
    | return ()
  if (← ftruncate fd (sizeBytes sizeMb)) = false then
    close fd
    unlink tempFilename
    return ()
  let writeBuffer ← malloc (sizeBytes sizeMb)
  if writeBuffer = .null then
    close fd
    unlink tempFilename
    return ()
  access (.block writeBuffer) (sizeBytes sizeMb)
  if (← write fd (sizeBytes sizeMb)).toUInt64 ≠ sizeBytes sizeMb then
    free writeBuffer
    close fd
    unlink tempFilename
    return ()
  free writeBuffer
  let mappedMemory ← mmap (sizeBytes sizeMb) .readWrite sharing (some fd)
  if mappedMemory = .mapFailed then
    close fd
    unlink tempFilename
    return ()
  goOver mappedMemory (sizeBytes sizeMb)
  munmap mappedMemory (sizeBytes sizeMb)
  close fd
  unlink tempFilename

def readThenModify (mapped : Ptr) (bytes : UInt64) : Action Unit := do
  access (.range mapped bytes) bytes
  access (.range mapped bytes) bytes

def readThenFork (mapped : Ptr) (bytes : UInt64) : Action Unit := do
  let buffer := Resource.range mapped bytes
  access buffer bytes
  withChild (do childWrites buffer bytes; msync mapped bytes) (readFirst buffer)

def demoPrivateFileMapping (sizeMb : UInt64) : Action Unit :=
  fileMappingDemo "/tmp/private_mapping_test_XXXXXX" .mapPrivate readThenModify sizeMb

def demoSharedFileMapping (sizeMb : UInt64) : Action Unit :=
  fileMappingDemo "/tmp/shared_mapping_test_XXXXXX" .mapShared readThenFork sizeMb

inductive Demo where
  | privateMemory (sizeMb : UInt64)
  | sharedMemory (sizeMb : UInt64)
  | purgeableMemory (sizeMb : UInt64)
  | compressedMemory (sizeMb : UInt64)
  | anonSharedMemoryRprvt (sizeMb : UInt64)
  | purgeableData (sizeMb : UInt64)
  | realMemory (sizeMb : UInt64)
  | privateFileMapping (sizeMb : UInt64)
  | sharedFileMapping (sizeMb : UInt64)
  deriving DecidableEq, Repr

def Demo.action : Demo → Action Unit
  | .privateMemory sizeMb => demoPrivateMemory sizeMb
  | .sharedMemory sizeMb => demoSharedMemory sizeMb
  | .purgeableMemory sizeMb => demoPurgeableMemory sizeMb
  | .compressedMemory sizeMb => demoCompressedMemory sizeMb
  | .anonSharedMemoryRprvt sizeMb => demoAnonSharedMemoryRprvt sizeMb
  | .purgeableData sizeMb => demoPurgeableData sizeMb
  | .realMemory sizeMb => demoRealMemory sizeMb
  | .privateFileMapping sizeMb => demoPrivateFileMapping sizeMb
  | .sharedFileMapping sizeMb => demoSharedFileMapping sizeMb

theorem anonymousSharedDemo_restores (sizeMb : UInt64) : Restores (anonymousSharedDemo sizeMb) := by
  intro held
  unfold anonymousSharedDemo
  rw [keeps_bind, keeps_mmap_anonymous]
  apply And.intro rfl
  intro address
  have mapped := Multiset.mem_cons_self (.range (.address address) (sizeBytes sizeMb)) held
  rw [if_neg (by simp), keeps_bind, keeps_access _ _ mapped, keeps_bind]
  apply withChild_writes_keeps mapped
  rw [keeps_munmap]

theorem readFirst_keeps {target : Resource} {held : Multiset Resource}
    {post : Unit → Multiset Resource → Prop} (member : target ∈ held) (holds : post () held) :
    Keeps (readFirst target) held post :=
  (keeps_access _ _ member).mpr holds

theorem mem_withBlocks {target : Resource} {held : Multiset Resource} (chunks : List Ptr)
    (member : target ∈ held) : target ∈ FootprintDemos.withBlocks chunks held :=
  Multiset.mem_add.mpr (Or.inr member)

theorem demoPurgeableMemory_restores (sizeMb : UInt64) : Restores (demoPurgeableMemory sizeMb) := by
  intro held
  unfold demoPurgeableMemory
  rw [keeps_bind, keeps_vmAllocate]
  apply And.intro rfl
  intro value
  have allocated := Multiset.mem_cons_self (.range (.address value) (sizeBytes sizeMb)) held
  rw [keeps_bind, keeps_access _ _ allocated, keeps_bind, keeps_vmPurgableControl _ allocated]
  apply allocateChunks_then
  intro pressureBuffers solid
  rw [keeps_bind]
  apply readFirst_keeps (mem_withBlocks pressureBuffers allocated)
  rw [keeps_bind]
  apply freeChunks_keeps solid
  rw [keeps_vmDeallocate]

theorem demoCompressedMemory_restores (sizeMb : UInt64) :
    Restores (demoCompressedMemory sizeMb) := by
  intro held
  unfold demoCompressedMemory
  rw [keeps_bind, keeps_malloc]
  apply And.intro rfl
  intro address
  rw [if_neg (by simp), keeps_bind, keeps_access _ _ (Multiset.mem_cons_self _ _)]
  apply allocateChunks_then
  intro pressureBuffers solid
  rw [keeps_bind]
  apply freeChunks_keeps solid
  rw [keeps_free _ (by simp)]

theorem readByte_keeps {data : Nat} {held : Multiset Resource}
    {post : Unit → Multiset Resource → Prop} (member : .object data ∈ held)
    (holds : post () held) : Keeps (readByte data) held post := by
  unfold readByte
  rw [keeps_bind, keeps_mutableBytes _ member]
  intro bytes
  cases bytes with
  | none => exact holds
  | some start => exact readFirst_keeps member holds

theorem readBack_keeps {data : Nat} {held : Multiset Resource}
    {post : Unit → Multiset Resource → Prop} (member : .object data ∈ held)
    (holds : post () held) : Keeps (readBack data) held post := by
  unfold readBack
  rw [keeps_bind, keeps_beginContentAccess _ member]
  intro begun
  cases begun with
  | false => exact holds
  | true =>
    rw [if_pos rfl, keeps_bind]
    apply readByte_keeps member
    rw [keeps_endContentAccess _ member]
    exact holds

/-- Once the object is there it stays: no way through the demo releases it. -/
theorem useData_keeps (data : Nat) (bytes : UInt64) {held : Multiset Resource}
    (member : .object data ∈ held) :
    Keeps (useData data bytes) held fun _ after => after = held := by
  unfold useData
  rw [keeps_bind, keeps_beginContentAccess _ member]
  intro begun
  cases begun with
  | false => exact rfl
  | true =>
    rw [if_neg (by simp), keeps_bind, keeps_mutableBytes _ member]
    intro start
    cases start with
    | none => simp only [keeps_endContentAccess _ member]
    | some start =>
      rw [keeps_bind, keeps_access _ _ member, keeps_bind, keeps_endContentAccess _ member]
      apply allocateChunks_then
      intro pressureBuffers solid
      rw [keeps_bind]
      apply readBack_keeps (mem_withBlocks pressureBuffers member)
      exact freeChunks_keeps solid rfl

theorem cons_reverse (first second third : Resource) (held : Multiset Resource) :
    first ::ₘ second ::ₘ third ::ₘ held = third ::ₘ second ::ₘ first ::ₘ held := by
  rw [Multiset.cons_swap second third, Multiset.cons_swap first third,
    Multiset.cons_swap first second]

theorem demoRealMemory_restores (sizeMb : UInt64) : Restores (demoRealMemory sizeMb) := by
  intro held
  unfold demoRealMemory
  rw [keeps_bind, keeps_malloc]
  apply And.intro rfl
  intro privateBuffer
  rw [if_neg (by simp), keeps_bind, keeps_access _ _ (Multiset.mem_cons_self _ _), keeps_bind,
    keeps_mmap_anonymous]
  refine ⟨?_, fun sharedMemory => ?_⟩
  · simp
  rw [if_neg (by simp), keeps_bind, keeps_access _ _ (Multiset.mem_cons_self _ _), keeps_bind,
    keeps_vmAllocate]
  -- the block was allocated first and is freed first, so it moves to the front
  refine ⟨?_, fun purgeableAddress => ?_⟩
  · rw [keeps_bind, Multiset.cons_swap, keeps_free _ (by simp), keeps_munmap]
  have allocated := Multiset.mem_cons_self
    (.range (.address purgeableAddress) (sizeBytes (sizeMb / 3)))
    (.range (.address sharedMemory) (sizeBytes (sizeMb / 3)) ::ₘ
      .block (.address privateBuffer) ::ₘ held)
  rw [keeps_bind, keeps_access _ _ allocated, keeps_bind, keeps_vmPurgableControl _ allocated,
    keeps_bind, cons_reverse, keeps_free _ (by simp), keeps_bind, keeps_munmap, keeps_vmDeallocate]

theorem fileMappingDemo_restores (template : String) (sharing : Sharing)
    {goOver : Ptr → UInt64 → Action Unit}
    (visits : ∀ address bytes held, .range (.address address) bytes ∈ held →
      Keeps (goOver (.address address) bytes) held fun _ after => after = held)
    (sizeMb : UInt64) : Restores (fileMappingDemo template sharing goOver sizeMb) := by
  intro held
  unfold fileMappingDemo
  rw [keeps_bind, keeps_mkstemp]
  apply And.intro rfl
  intro fd tempFilename
  rw [keeps_bind, keeps_ftruncate _ _ (Multiset.mem_cons_self _ _)]
  intro truncated
  cases truncated with
  | false => simp
  | true =>
    rw [if_neg (by simp), keeps_bind, keeps_malloc]
    refine ⟨?_, fun writeBuffer => ?_⟩
    · -- no buffer: the descriptor and the file are left
      simp
    have open_ : .descriptor fd ∈ .block (.address writeBuffer) ::ₘ .descriptor fd ::ₘ
        .tempFile tempFilename ::ₘ held := by simp
    rw [if_neg (by simp), keeps_bind, keeps_access _ _ (Multiset.mem_cons_self _ _), keeps_bind,
      keeps_write _ _ open_]
    intro written
    split
    next short => simp
    next full =>
      rw [keeps_bind, keeps_free _ (by simp), keeps_bind,
        keeps_mmap_file _ _ _ _ (Multiset.mem_cons_self _ _)]
      refine ⟨?_, fun address => ?_⟩
      · -- the file is filled and cannot be mapped
        simp
      rw [if_neg (by simp), keeps_bind]
      apply (visits address _ _ (Multiset.mem_cons_self _ _)).mono
      intro value after same
      rw [same]
      simp

theorem readThenModify_visits (address : Nat) (bytes : UInt64) (held : Multiset Resource)
    (member : .range (.address address) bytes ∈ held) :
    Keeps (readThenModify (.address address) bytes) held fun _ after => after = held := by
  simp [readThenModify, member]

theorem readThenFork_visits (address : Nat) (bytes : UInt64) (held : Multiset Resource)
    (member : .range (.address address) bytes ∈ held) :
    Keeps (readThenFork (.address address) bytes) held fun _ after => after = held := by
  unfold readThenFork
  rw [keeps_bind, keeps_access _ _ member]
  apply withChild_keeps rfl
  · simp [childWrites, readFirst, member]
  · exact readFirst_keeps member rfl

/-- All demos but the one with the object leave what is held as it is. -/
theorem demo_restores (demo : Demo) (other : ∀ sizeMb, demo ≠ .purgeableData sizeMb) :
    Restores demo.action := by
  cases demo with
  | privateMemory sizeMb => exact mallocDemo_restores sizeMb
  | sharedMemory sizeMb => exact anonymousSharedDemo_restores sizeMb
  | purgeableMemory sizeMb => exact demoPurgeableMemory_restores sizeMb
  | compressedMemory sizeMb => exact demoCompressedMemory_restores sizeMb
  | anonSharedMemoryRprvt sizeMb => exact anonymousSharedDemo_restores sizeMb
  | purgeableData sizeMb => exact absurd rfl (other sizeMb)
  | realMemory sizeMb => exact demoRealMemory_restores sizeMb
  | privateFileMapping sizeMb => exact fileMappingDemo_restores _ _ readThenModify_visits sizeMb
  | sharedFileMapping sizeMb => exact fileMappingDemo_restores _ _ readThenFork_visits sizeMb

/-- The object is still held when the demo returns, if there was one. -/
theorem demoPurgeableData_accounted_iff (sizeMb : UInt64)
    (environment : Environment Call Answer)
    (returned : (run environment [] (demoPurgeableData sizeMb)).result = some ()) :
    Accounted ((run environment [] (demoPurgeableData sizeMb)).log.flatMap effect) ↔
      environment [] (.purgeableData (sizeBytes sizeMb)) = none := by
  rw [accounted_iff_replay]
  change (run environment [] (Program.ask _ >>= _)).result = _ at returned
  change replay 0 ((run environment [] (Program.ask _ >>= _)).log.flatMap effect) = _ ↔ _
  cases answer : environment [] (.purgeableData (sizeBytes sizeMb)) with
  | none =>
    rw [run_ask environment [] _ _ answer]
    exact ⟨fun _ => rfl, fun _ => rfl⟩
  | some data =>
    rw [run_ask environment [] _ _ answer] at returned ⊢
    obtain ⟨final, replayed, same⟩ := replay_of_safe
      (useData_keeps data (sizeBytes sizeMb) (Multiset.mem_cons_self _ 0)) environment _ returned
    change replay (.object data ::ₘ 0) ((run environment
      [⟨.purgeableData (sizeBytes sizeMb), some data⟩]
        (useData data (sizeBytes sizeMb))).log.flatMap effect) = _ ↔ _
    rw [List.nil_append] at replayed
    rw [replayed, same]
    simp

/-- A returning demo has released all it acquired, each once, unless it is the demo of
`NSPurgeableData` and got its object. -/
theorem activityDemo_accounted_iff (demo : Demo) (environment : Environment Call Answer)
    (returned : (run environment [] demo.action).result = some ()) :
    Accounted ((run environment [] demo.action).log.flatMap effect) ↔
      ∀ sizeMb, demo = .purgeableData sizeMb →
        environment [] (.purgeableData (sizeBytes sizeMb)) = none := by
  by_cases object : ∃ sizeMb, demo = .purgeableData sizeMb
  · obtain ⟨sizeMb, rfl⟩ := object
    refine (demoPurgeableData_accounted_iff sizeMb environment returned).trans ?_
    constructor
    · intro refused other same
      cases same
      exact refused
    · intro refused
      exact refused sizeMb rfl
  · have others : ∀ sizeMb, demo ≠ .purgeableData sizeMb := fun sizeMb same => object ⟨sizeMb, same⟩
    exact ⟨fun _ sizeMb same => absurd same (others sizeMb),
      fun _ => accounted_of_safe (demo_restores demo others 0) environment returned⟩

theorem activityDemo_accounted_realMemory :
    Accounted ((run granting [] (Demo.action (.realMemory 150))).log.flatMap effect) ↔
      ∀ sizeMb, Demo.realMemory 150 = .purgeableData sizeMb →
        granting [] (.purgeableData (sizeBytes sizeMb)) = none :=
  activityDemo_accounted_iff (.realMemory 150) granting rfl

/-- Even where every call succeeds, the object is left. -/
theorem purgeableData_granting_leaks :
    (run granting [] (Demo.action (.purgeableData 100))).result = some () ∧
      ¬ Accounted ((run granting [] (Demo.action (.purgeableData 100))).log.flatMap effect) := by
  refine ⟨rfl, ?_⟩
  change ¬ Accounted ((run granting [] (demoPurgeableData 100)).log.flatMap effect)
  rw [demoPurgeableData_accounted_iff 100 granting rfl]
  intro refused
  cases refused

end MemoryDemo.Darwin.ActivityDemos
