import MemoryDemo.Darwin.Calls

/-! The allocators and the test functions of `macos/system/activity_monitor_demo.mm`. -/

namespace MemoryDemo.Darwin.MonitorTests
open Library.CallTree Library.Ledger Calls

def allocatePrivateMemory (size : UInt64) : Action Ptr :=
  mmap size .readWrite .mapPrivate none

def allocateSharedMemory (size : UInt64) : Action Ptr :=
  mmap size .readWrite .mapShared none

/-- Unlike the other allocators this one returns a null pointer on failure. -/
def alloctePugealeMemory2 (sizeBytes : UInt64) : Action Ptr := do
  let some address ← vmAllocate sizeBytes
    | return .null
  access (.range (.address address) sizeBytes) sizeBytes
  vmPurgableControl (.range (.address address) sizeBytes)
  return .address address

/-- The tests of anonymous memory: allocate, write, unmap. -/
def testAnonymous (allocate : UInt64 → Action Ptr) (size : UInt64) : Action Unit := do
  let ptr ← allocate size
  if ptr = .mapFailed then
    return ()
  access (.range ptr size) size
  munmap ptr size

def testPrivateMemory : Action Unit :=
  testAnonymous allocatePrivateMemory (200 * 1024 * 1024)

def testSharedMemory : Action Unit :=
  testAnonymous allocateSharedMemory (500 * 1024 * 1024)

/-- The size that the purgeable test allocates. -/
def purgeableSize : UInt64 := 500 * 1024 * 1024

/-- The `memset` after the check is commented out in the source. -/
def testPurgeableMemory : Action Unit := do
  let ptr ← alloctePugealeMemory2 purgeableSize
  if ptr = .mapFailed then
    return ()
  munmap ptr purgeableSize

/-- The tests of mapped files: check that the file is there, take its size, open and map
it, go over the mapping, and clean up. -/
def testFileMap (mode : OpenMode) (prot : Prot) (sharing : Sharing)
    (goOver : Ptr → UInt64 → Action Unit) (filePath : String) : Action Unit := do
  if filePath = "" then
    return ()
  let some checkFile ← openInput filePath
    | return ()
  let size ← streamSize checkFile
  closeStream checkFile
  let some fd ← openFile filePath mode
    | return ()
  let ptr ← mmap size prot sharing (some fd)
  if ptr = .mapFailed then
    close fd
    return ()
  goOver ptr size
  munmap ptr size
  close fd

def readPages (ptr : Ptr) (size : UInt64) : Action Unit :=
  access (.range ptr size) size

def writePages (ptr : Ptr) (size : UInt64) : Action Unit := do
  access (.range ptr size) size
  msync ptr size

def testFileMapPrivate (filePath : String) : Action Unit :=
  testFileMap .readOnly .read .mapPrivate readPages filePath

def testFileMapSharedNoModify (filePath : String) : Action Unit :=
  testFileMap .readOnly .read .mapShared readPages filePath

def testFileMapSharedModify (filePath : String) : Action Unit :=
  testFileMap .readWrite .readWrite .mapShared writePages filePath

inductive Test where
  | privateMemory
  | sharedMemory
  | purgeableMemory
  | fileMapPrivate (filePath : String)
  | fileMapSharedNoModify (filePath : String)
  | fileMapSharedModify (filePath : String)
  deriving DecidableEq

def Test.action : Test → Action Unit
  | .privateMemory => testPrivateMemory
  | .sharedMemory => testSharedMemory
  | .purgeableMemory => testPurgeableMemory
  | .fileMapPrivate filePath => testFileMapPrivate filePath
  | .fileMapSharedNoModify filePath => testFileMapSharedNoModify filePath
  | .fileMapSharedModify filePath => testFileMapSharedModify filePath

section Allocators
variable (size : UInt64) (held : Multiset Resource)

/-- What an allocator of anonymous memory promises: a failure and nothing more held, or the address
of a range that is held. -/
def Allocates (allocate : Action Ptr) : Prop :=
  Keeps allocate held fun ptr after =>
    ptr = .mapFailed ∧ after = held ∨
      ∃ address, ptr = .address address ∧ after = .range (.address address) size ::ₘ held

theorem allocatePrivateMemory_allocates :
    Allocates size held (allocatePrivateMemory size) := by
  simp [Allocates, allocatePrivateMemory]

theorem allocateSharedMemory_allocates :
    Allocates size held (allocateSharedMemory size) := by
  simp [Allocates, allocateSharedMemory]

end Allocators

theorem testAnonymous_restores {allocate : UInt64 → Action Ptr} {size : UInt64}
    (promise : ∀ held, Allocates size held (allocate size)) :
    Restores (testAnonymous allocate size) := by
  intro held
  unfold testAnonymous
  rw [keeps_bind]
  apply (promise held).mono
  intro ptr after allocated
  cases allocated with
  | inl failed =>
    obtain ⟨rfl, rfl⟩ := failed
    simp
  | inr obtained =>
    obtain ⟨address, rfl, rfl⟩ := obtained
    simp

/-- Going over a mapping only uses it. -/
def Visits (goOver : Ptr → UInt64 → Action Unit) : Prop :=
  ∀ address size rest, Keeps (goOver (.address address) size)
    (.range (.address address) size ::ₘ rest)
      fun _ after => after = .range (.address address) size ::ₘ rest

theorem readPages_visits : Visits readPages := by
  intro address size rest
  simp [readPages]

theorem writePages_visits : Visits writePages := by
  intro address size rest
  simp [writePages]

theorem testFileMap_restores (mode : OpenMode) (prot : Prot) (sharing : Sharing)
    {goOver : Ptr → UInt64 → Action Unit} (visits : Visits goOver) (filePath : String) :
    Restores (testFileMap mode prot sharing goOver filePath) := by
  intro held
  unfold testFileMap
  by_cases empty : filePath = ""
  · rw [if_pos empty]
    exact rfl
  rw [if_neg empty, keeps_bind, keeps_openInput]
  apply And.intro rfl
  intro checkFile
  simp only [keeps_bind, keeps_streamSize, Multiset.mem_cons_self, keeps_closeStream,
    keeps_openFile]
  intro size
  apply And.intro rfl
  intro fd
  simp only [keeps_mmap_file, Multiset.mem_cons_self]
  refine ⟨?_, fun address => ?_⟩
  · -- the mapping failed: only the descriptor is open
    simp
  · rw [if_neg (by simp), keeps_bind]
    apply (visits address size _).mono
    intro value after same
    subst same
    simp

/-- A failed allocation of the purgeable test is not noticed: the null pointer is unmapped. -/
theorem testPurgeableMemory_events_failed (environment : Environment Call Answer)
    (failed : environment [] (.vmAllocate purgeableSize) = none) :
    (run environment [] testPurgeableMemory).log.flatMap effect =
      [.release (.range .null purgeableSize)] := by
  simp only [testPurgeableMemory, alloctePugealeMemory2, vmAllocate, bind, Program.bind,
    Program.ask, run, failed]
  rfl

theorem testPurgeableMemory_events_allocated (environment : Environment Call Answer)
    {address : Nat} (allocated : environment [] (.vmAllocate purgeableSize) = some address) :
    (run environment [] testPurgeableMemory).log.flatMap effect =
      let range := Resource.range (.address address) purgeableSize
      [.acquire range, .use range, .use range, .release range] := by
  simp only [testPurgeableMemory, alloctePugealeMemory2, vmAllocate, bind, Program.bind,
    Program.ask, run, allocated]
  rfl

theorem testPurgeableMemory_accounted_iff (environment : Environment Call Answer) :
    Accounted ((run environment [] testPurgeableMemory).log.flatMap effect) ↔
      environment [] (.vmAllocate purgeableSize) ≠ none := by
  rw [accounted_iff_replay]
  cases answer : environment [] (.vmAllocate purgeableSize) with
  | none =>
    rw [testPurgeableMemory_events_failed environment answer]
    simp [replay, record]
  | some address =>
    rw [testPurgeableMemory_events_allocated environment answer]
    simp [replay, record]

/-- The tests other than the purgeable one leave what is held as it is. -/
theorem test_restores (test : Test) (other : test ≠ .purgeableMemory) : Restores test.action := by
  cases test with
  | privateMemory => exact testAnonymous_restores (allocatePrivateMemory_allocates _)
  | sharedMemory => exact testAnonymous_restores (allocateSharedMemory_allocates _)
  | purgeableMemory => exact absurd rfl other
  | fileMapPrivate filePath => exact testFileMap_restores _ _ _ readPages_visits filePath
  | fileMapSharedNoModify filePath => exact testFileMap_restores _ _ _ readPages_visits filePath
  | fileMapSharedModify filePath => exact testFileMap_restores _ _ _ writePages_visits filePath

/-- A returning test has its accounts in order, except for the purgeable test when the
allocation fails. -/
theorem test_accounted_iff (test : Test) (environment : Environment Call Answer)
    (returned : (run environment [] test.action).result = some ()) :
    Accounted ((run environment [] test.action).log.flatMap effect) ↔
      (test = .purgeableMemory → environment [] (.vmAllocate purgeableSize) ≠ none) := by
  by_cases purgeable : test = .purgeableMemory
  · subst purgeable
    exact (testPurgeableMemory_accounted_iff environment).trans
      ⟨fun allocated _ => allocated, fun allocated => allocated rfl⟩
  · have accounted := accounted_of_safe (test_restores test purgeable 0) environment returned
    exact ⟨fun _ same => absurd same purgeable, fun _ => accounted⟩

theorem test_accounted_granting :
    Accounted ((run granting [] (Test.action .purgeableMemory)).log.flatMap effect) ↔
      (Test.purgeableMemory = .purgeableMemory →
        granting [] (.vmAllocate purgeableSize) ≠ none) :=
  test_accounted_iff .purgeableMemory granting rfl

theorem purgeable_refused_not_accounted :
    (run refusing [] (Test.action .purgeableMemory)).result = some () ∧
      ¬ Accounted
        ((run refusing [] (Test.action .purgeableMemory)).log.flatMap effect) := by
  refine ⟨rfl, ?_⟩
  change ¬ Accounted ((run refusing [] testPurgeableMemory).log.flatMap effect)
  rw [testPurgeableMemory_accounted_iff]
  exact fun refused => refused rfl

end MemoryDemo.Darwin.MonitorTests
