import MemoryDemo.Darwin.Calls

/-! The demos of `macos/process/xnu_footprint_demo.cpp`, except the one that drives the
Metal tools. -/

namespace MemoryDemo.Darwin.FootprintDemos
open Library.CallTree Library.Ledger Calls

/-- `size_mb * 1024 * 1024`. -/
def sizeBytes (sizeMb : UInt64) : UInt64 :=
  sizeMb * 1024 * 1024

/-- One chunk of `create_temp_file`, 1 MB. -/
def chunkSize : UInt64 := 1024 * 1024

def writeChunks (file : Nat) : Nat → Action Unit
  | 0 => return ()
  | left + 1 => do
    writeStream file chunkSize
    writeChunks file left

def tempName (start : String) (pid : Nat) : String :=
  start ++ toString pid ++ ".tmp"

/-- `create_temp_file` of this file and of `file_mapping_dirty_demo.cpp`, which differ in the
name of the file only. -/
def namedTempFile (start : String) (sizeMb : UInt64) : Action String := do
  let pid ← getpid
  let some file ← openOutput (tempName start pid)
    | return ""
  writeChunks file sizeMb.toNat
  closeStream file
  return tempName start pid

def createTempFile (sizeMb : UInt64) : Action String :=
  namedTempFile "/tmp/memory_demo_" sizeMb

def cleanupTempFile (filename : String) : Action Unit := do
  if filename ≠ "" then
    remove filename

/-- Two demos allocate a block, write to it and free it. -/
def mallocDemo (sizeMb : UInt64) : Action Unit := do
  let buffer ← malloc (sizeBytes sizeMb)
  if buffer = .null then
    return ()
  access (.block buffer) (sizeBytes sizeMb)
  free buffer

def demoInternalMemory (sizeMb : UInt64) : Action Unit :=
  mallocDemo sizeMb

def demoFileMappedMemory (sizeMb : UInt64) : Action Unit := do
  let filename ← createTempFile sizeMb
  if filename = "" then
    return ()
  let some fd ← openFile filename .readWrite
    | cleanupTempFile filename
  let mappedMemory ← mmap (sizeBytes sizeMb) .readWrite .mapShared (some fd)
  if mappedMemory = .mapFailed then
    close fd
    cleanupTempFile filename
    return ()
  access (.range mappedMemory (sizeBytes sizeMb)) (sizeBytes sizeMb)
  munmap mappedMemory (sizeBytes sizeMb)
  close fd
  cleanupTempFile filename

def demoAnonymousMapping (sizeMb : UInt64) : Action Unit := do
  let mappedMemory ← mmap (sizeBytes sizeMb) .readWrite .mapPrivate none
  if mappedMemory = .mapFailed then
    return ()
  access (.range mappedMemory (sizeBytes sizeMb)) (sizeBytes sizeMb)
  munmap mappedMemory (sizeBytes sizeMb)

/-- The loops that allocate and write chunks until one fails, and keep those they got. -/
def allocateChunks (chunkBytes : UInt64) : Nat → List Ptr → Action (List Ptr)
  | 0, chunks => return chunks
  | left + 1, chunks => do
    let chunk ← malloc chunkBytes
    if chunk = .null then
      return chunks
    access (.block chunk) chunkBytes
    allocateChunks chunkBytes left (chunks ++ [chunk])

def freeChunks : List Ptr → Action Unit
  | [] => return ()
  | chunk :: chunks => do
    free chunk
    freeChunks chunks

/-- `pressure_chunk` in bytes, 50 MB. -/
def pressureChunk : UInt64 := 50 * 1024 * 1024

def demoMemoryCompression (sizeMb : UInt64) : Action Unit := do
  let buffer ← malloc (sizeBytes sizeMb)
  if buffer = .null then
    return ()
  access (.block buffer) (sizeBytes sizeMb)
  let pressureBuffers ← allocateChunks pressureChunk 10 []
  freeChunks pressureBuffers
  free buffer

/-- A chunk of no bytes divides by zero; as on ARM the quotient is zero then. -/
def demoPageTable (sizeMb chunkSizeKb : UInt64) : Action Unit := do
  let chunkBytes := chunkSizeKb * 1024
  let numChunks := sizeBytes sizeMb / chunkBytes
  let memoryChunks ← allocateChunks chunkBytes numChunks.toNat []
  freeChunks memoryChunks

/-- The fork of the shared memory demos: the child ends in `exit(0)`, the parent waits for
it, and without a child the demo goes on. -/
def withChild (child parent : Action Unit) : Action Unit := do
  match ← fork with
  | .failed => return ()
  | .child => do
    child
    exit
  | .parent pid => do
    waitpid pid
    parent

def readFirst (memory : Resource) : Action Unit :=
  access memory 1

def childWrites (memory : Resource) (bytes : UInt64) : Action Unit := do
  readFirst memory
  access memory bytes
  readFirst memory

def demoAnonymousSharedMemory (sizeMb : UInt64) : Action Unit := do
  let sharedMemory ← mmap (sizeBytes sizeMb) .readWrite .mapShared none
  if sharedMemory = .mapFailed then
    return ()
  let buffer := Resource.range sharedMemory (sizeBytes sizeMb)
  access buffer (sizeBytes sizeMb)
  withChild (childWrites buffer (sizeBytes sizeMb)) (readFirst buffer)
  munmap sharedMemory (sizeBytes sizeMb)

def demoSharedMemory (sizeMb : UInt64) : Action Unit := do
  let pid ← getpid
  let shmName := "/xnu_footprint_demo_" ++ toString pid
  let some fd ← shmOpen shmName
    | return ()
  if (← ftruncate fd (sizeBytes sizeMb)) = false then
    close fd
    shmUnlink shmName
    return ()
  let sharedMemory ← mmap (sizeBytes sizeMb) .readWrite .mapShared (some fd)
  if sharedMemory = .mapFailed then
    close fd
    shmUnlink shmName
    return ()
  let buffer := Resource.range sharedMemory (sizeBytes sizeMb)
  access buffer (sizeBytes sizeMb)
  withChild (childWrites buffer (sizeBytes sizeMb)) (readFirst buffer)
  munmap sharedMemory (sizeBytes sizeMb)
  close fd
  shmUnlink shmName

/-- `IPC_CREAT` and `IPC_EXCL`. -/
def ipcCreat : Nat := 0o1000

def ipcExcl : Nat := 0o2000

def flagsOptions : List Nat :=
  [ipcCreat ||| 0o666, ipcCreat ||| ipcExcl ||| 0o666, ipcCreat ||| 0o600,
    ipcCreat ||| ipcExcl ||| 0o600]

def sizeOptions : List UInt64 :=
  [64 * 1024, 32 * 1024, 16 * 1024, 8 * 1024, 4 * 1024]

/-- The inner loop: the first flags that give a segment of the size. -/
def tryFlags (key : Nat) (currentSize : UInt64) : List Nat → Action (Option Nat)
  | [] => return none
  | flags :: rest => do
    match ← shmget key currentSize flags with
    | some shmid => return some shmid
    | none => tryFlags key currentSize rest

/-- The outer loop: the first size for which some flags give a segment. -/
def trySizes (key : Nat) : List UInt64 → Action (Option (Nat × UInt64))
  | [] => return none
  | currentSize :: rest => do
    match ← tryFlags key currentSize flagsOptions with
    | some shmid => return some (shmid, currentSize)
    | none => trySizes key rest

/-- The step that is to remove a segment left over from before. -/
def removeExisting (key : Nat) : Action Unit := do
  match ← shmget key 0 0o666 with
  | some existingShmid => shmctlRemove existingShmid
  | none => return ()

/-- Without a segment the demo of POSIX shared memory runs instead. -/
def withoutSegment : Action Unit := do
  let _ ← system "ipcs -m"
  let _ ← system "sysctl kern.sysv"
  demoSharedMemory 1

/-- The demo with a segment of the size that was found. -/
def useSegment (shmid : Nat) (currentSize : UInt64) : Action Unit := do
  let sharedMemory ← shmat shmid
  if sharedMemory = .mapFailed then
    shmctlRemove shmid
    demoSharedMemory 1
    return ()
  let buffer := Resource.attachment sharedMemory
  access buffer currentSize
  withChild (do childWrites buffer currentSize; shmdt sharedMemory) (readFirst buffer)
  shmdt sharedMemory
  shmctlRemove shmid

/-- How the demo goes on behind its search. -/
def afterSearch : Option (Nat × UInt64) → Action Unit
  | none => withoutSegment
  | some (shmid, currentSize) => useSegment shmid currentSize

/-- The size argument is not used. -/
def demoSysvSharedMemory (_sizeMb : UInt64) : Action Unit := do
  let _ ← system "ipcs -l"
  removeExisting ipcPrivate
  afterSearch (← trySizes ipcPrivate sizeOptions)

def demoPurgeableMemory (sizeMb : UInt64) : Action Unit :=
  mallocDemo sizeMb

inductive Demo where
  | internalMemory (sizeMb : UInt64)
  | fileMappedMemory (sizeMb : UInt64)
  | anonymousMapping (sizeMb : UInt64)
  | memoryCompression (sizeMb : UInt64)
  | pageTable (sizeMb chunkSizeKb : UInt64)
  | anonymousSharedMemory (sizeMb : UInt64)
  | sharedMemory (sizeMb : UInt64)
  | sysvSharedMemory (sizeMb : UInt64)
  | purgeableMemory (sizeMb : UInt64)
  deriving DecidableEq, Repr

def Demo.action : Demo → Action Unit
  | .internalMemory sizeMb => demoInternalMemory sizeMb
  | .fileMappedMemory sizeMb => demoFileMappedMemory sizeMb
  | .anonymousMapping sizeMb => demoAnonymousMapping sizeMb
  | .memoryCompression sizeMb => demoMemoryCompression sizeMb
  | .pageTable sizeMb chunkSizeKb => demoPageTable sizeMb chunkSizeKb
  | .anonymousSharedMemory sizeMb => demoAnonymousSharedMemory sizeMb
  | .sharedMemory sizeMb => demoSharedMemory sizeMb
  | .sysvSharedMemory sizeMb => demoSysvSharedMemory sizeMb
  | .purgeableMemory sizeMb => demoPurgeableMemory sizeMb

theorem writeChunks_keeps {file : Nat} (count : Nat) {held : Multiset Resource}
    (member : .stream file ∈ held) :
    Keeps (writeChunks file count) held fun _ after => after = held := by
  induction count with
  | zero => exact rfl
  | succ left ih =>
    unfold writeChunks
    rw [keeps_bind, keeps_writeStream _ _ member]
    exact ih

theorem tempName_ne_empty (start : String) (pid : Nat) : tempName start pid ≠ "" := by
  simp [tempName]

/-- Either nothing was made and the name is empty, or the file is there under its name. -/
theorem namedTempFile_keeps (start : String) (sizeMb : UInt64) {held : Multiset Resource}
    {post : String → Multiset Resource → Prop} (failed : post "" held)
    (created : ∀ filename, filename ≠ "" → post filename (.tempFile filename ::ₘ held)) :
    Keeps (namedTempFile start sizeMb) held post := by
  unfold namedTempFile
  rw [keeps_bind, keeps_getpid]
  intro pid
  rw [keeps_bind, keeps_openOutput]
  apply And.intro failed
  intro file
  rw [keeps_bind]
  apply (writeChunks_keeps _ (Multiset.mem_cons_self _ _)).mono
  intro value after same
  rw [same, keeps_bind, keeps_closeStream]
  exact created _ (tempName_ne_empty start pid)

theorem createTempFile_keeps (sizeMb : UInt64) {held : Multiset Resource}
    {post : String → Multiset Resource → Prop} (failed : post "" held)
    (created : ∀ filename, filename ≠ "" → post filename (.tempFile filename ::ₘ held)) :
    Keeps (createTempFile sizeMb) held post :=
  namedTempFile_keeps "/tmp/memory_demo_" sizeMb failed created

theorem cleanupTempFile_keeps {filename : String} (named : filename ≠ "")
    {held : Multiset Resource} {post : Unit → Multiset Resource → Prop} :
    Keeps (cleanupTempFile filename) (.tempFile filename ::ₘ held) post ↔ post () held := by
  unfold cleanupTempFile
  rw [if_pos named, keeps_remove]

theorem mallocDemo_restores (sizeMb : UInt64) : Restores (mallocDemo sizeMb) := by
  intro held
  unfold mallocDemo
  rw [keeps_bind, keeps_malloc]
  apply And.intro rfl
  intro address
  simp

theorem demoFileMappedMemory_restores (sizeMb : UInt64) :
    Restores (demoFileMappedMemory sizeMb) := by
  intro held
  unfold demoFileMappedMemory
  rw [keeps_bind]
  apply createTempFile_keeps
  · exact rfl
  intro filename named
  rw [if_neg named, keeps_bind, keeps_openFile]
  refine ⟨?_, fun fd => ?_⟩
  · -- the file cannot be opened
    exact (cleanupTempFile_keeps named).mpr rfl
  rw [keeps_bind, keeps_mmap_file _ _ _ _ (Multiset.mem_cons_self _ _)]
  refine ⟨?_, fun address => ?_⟩
  · -- the file is open and cannot be mapped
    simp [cleanupTempFile_keeps named]
  · simp [cleanupTempFile_keeps named]

theorem demoAnonymousMapping_restores (sizeMb : UInt64) :
    Restores (demoAnonymousMapping sizeMb) := by
  intro held
  unfold demoAnonymousMapping
  rw [keeps_bind, keeps_mmap_anonymous]
  apply And.intro rfl
  intro address
  simp

/-- What is held once the chunks are, on top of what was held before. -/
def withBlocks (chunks : List Ptr) (held : Multiset Resource) : Multiset Resource :=
  (chunks.map Resource.block : Multiset Resource) + held

theorem withBlocks_nil (held : Multiset Resource) : withBlocks [] held = held :=
  Multiset.zero_add held

theorem withBlocks_cons (chunk : Ptr) (chunks : List Ptr) (held : Multiset Resource) :
    withBlocks (chunk :: chunks) held = .block chunk ::ₘ withBlocks chunks held := by
  unfold withBlocks
  rw [List.map_cons, ← Multiset.cons_coe, Multiset.cons_add]

theorem withBlocks_append (chunks : List Ptr) (chunk : Ptr) (held : Multiset Resource) :
    withBlocks (chunks ++ [chunk]) held = .block chunk ::ₘ withBlocks chunks held := by
  unfold withBlocks
  rw [List.map_append, ← Multiset.coe_add, Multiset.add_comm (chunks.map Resource.block :
    Multiset Resource), List.map_singleton, Multiset.coe_singleton, Multiset.singleton_add,
    Multiset.cons_add]

/-- The loop holds exactly the chunks it keeps, and none of them is null. -/
theorem allocateChunks_keeps (chunkBytes : UInt64) (left : Nat) (chunks : List Ptr)
    (solid : ∀ chunk ∈ chunks, chunk ≠ .null) (held : Multiset Resource) :
    Keeps (allocateChunks chunkBytes left chunks) (withBlocks chunks held) fun kept after =>
      (∀ chunk ∈ kept, chunk ≠ .null) ∧ after = withBlocks kept held := by
  induction left generalizing chunks with
  | zero => exact ⟨solid, rfl⟩
  | succ left ih =>
    unfold allocateChunks
    rw [keeps_bind, keeps_malloc]
    refine ⟨⟨solid, rfl⟩, fun address => ?_⟩
    rw [if_neg (by simp), keeps_bind, keeps_access _ _ (Multiset.mem_cons_self _ _),
      ← withBlocks_append]
    apply ih
    intro chunk member
    cases List.mem_append.mp member with
    | inl earlier => exact solid chunk earlier
    | inr new => simp [List.mem_singleton.mp new]

theorem allocateChunks_then {chunkBytes : UInt64} {count : Nat} {next : List Ptr → Action Unit}
    {held : Multiset Resource} {post : Unit → Multiset Resource → Prop}
    (goesOn : ∀ kept, (∀ chunk ∈ kept, chunk ≠ .null) →
      Keeps (next kept) (withBlocks kept held) post) :
    Keeps (allocateChunks chunkBytes count [] >>= next) held post := by
  have allocated := allocateChunks_keeps chunkBytes count [] (by simp) held
  rw [withBlocks_nil] at allocated
  rw [keeps_bind]
  apply allocated.mono
  intro kept after got
  obtain ⟨solid, rfl⟩ := got
  exact goesOn kept solid

theorem freeChunks_keeps {chunks : List Ptr} (solid : ∀ chunk ∈ chunks, chunk ≠ .null)
    {held : Multiset Resource} {post : Unit → Multiset Resource → Prop} (holds : post () held) :
    Keeps (freeChunks chunks) (withBlocks chunks held) post := by
  induction chunks with
  | nil =>
    rw [withBlocks_nil]
    exact holds
  | cons chunk chunks ih =>
    unfold freeChunks
    rw [withBlocks_cons, keeps_bind, keeps_free _ (solid chunk (List.mem_cons_self ..))]
    exact ih fun other member => solid other (List.mem_cons_of_mem _ member)

theorem demoMemoryCompression_restores (sizeMb : UInt64) :
    Restores (demoMemoryCompression sizeMb) := by
  intro held
  unfold demoMemoryCompression
  rw [keeps_bind, keeps_malloc]
  apply And.intro rfl
  intro address
  rw [if_neg (by simp), keeps_bind, keeps_access _ _ (Multiset.mem_cons_self _ _)]
  apply allocateChunks_then
  intro pressureBuffers solid
  rw [keeps_bind]
  apply freeChunks_keeps solid
  rw [keeps_free _ (by simp)]

theorem demoPageTable_restores (sizeMb chunkSizeKb : UInt64) :
    Restores (demoPageTable sizeMb chunkSizeKb) := by
  intro held
  apply allocateChunks_then
  intro memoryChunks solid
  exact freeChunks_keeps solid rfl

/-- The parent goes on as it was: the child is waited for, and its own run ends in `exit`. -/
theorem withChild_keeps {child parent : Action Unit} {held : Multiset Resource}
    {post : Unit → Multiset Resource → Prop} (holds : post () held)
    (childKeeps : Keeps child held fun _ _ => True) (parentKeeps : Keeps parent held post) :
    Keeps (withChild child parent) held post := by
  unfold withChild
  rw [keeps_bind, keeps_fork]
  refine ⟨holds, ?_, fun pid => ?_⟩
  · rw [keeps_bind]
    exact childKeeps
  · rw [keeps_bind, keeps_waitpid]
    exact parentKeeps

/-- Shared memory that is held is still held after both processes went over it. -/
theorem withChild_writes_keeps {memory : Resource} {bytes : UInt64} {held : Multiset Resource}
    {post : Unit → Multiset Resource → Prop} (member : memory ∈ held) (holds : post () held) :
    Keeps (withChild (childWrites memory bytes) (readFirst memory)) held post := by
  apply withChild_keeps holds
  · simp [childWrites, readFirst, member]
  · simp [readFirst, member, holds]

theorem demoAnonymousSharedMemory_restores (sizeMb : UInt64) :
    Restores (demoAnonymousSharedMemory sizeMb) := by
  intro held
  unfold demoAnonymousSharedMemory
  rw [keeps_bind, keeps_mmap_anonymous]
  apply And.intro rfl
  intro address
  have mapped := Multiset.mem_cons_self (.range (.address address) (sizeBytes sizeMb)) held
  rw [if_neg (by simp), keeps_bind, keeps_access _ _ mapped, keeps_bind]
  apply withChild_writes_keeps mapped
  rw [keeps_munmap]

theorem demoSharedMemory_restores (sizeMb : UInt64) : Restores (demoSharedMemory sizeMb) := by
  intro held
  unfold demoSharedMemory
  rw [keeps_bind, keeps_getpid]
  intro pid
  rw [keeps_bind, keeps_shmOpen]
  apply And.intro rfl
  intro fd
  rw [keeps_bind, keeps_ftruncate _ _ (Multiset.mem_cons_self _ _)]
  intro truncated
  cases truncated with
  | false => simp
  | true =>
    rw [if_neg (by simp), keeps_bind, keeps_mmap_file _ _ _ _ (Multiset.mem_cons_self _ _)]
    refine ⟨?_, fun address => ?_⟩
    · -- the mapping failed: the descriptor and the name are left
      simp
    have mapped := Multiset.mem_cons_self (.range (.address address) (sizeBytes sizeMb))
      (.descriptor fd ::ₘ .shmName ("/xnu_footprint_demo_" ++ toString pid) ::ₘ held)
    rw [if_neg (by simp), keeps_bind, keeps_access _ _ mapped, keeps_bind]
    apply withChild_writes_keeps mapped
    simp

theorem tryFlags_keeps (currentSize : UInt64) (options : List Nat) {held : Multiset Resource}
    {post : Option Nat → Multiset Resource → Prop} (refused : post none held)
    (granted : ∀ shmid, post (some shmid) (.segment shmid ::ₘ held)) :
    Keeps (tryFlags ipcPrivate currentSize options) held post := by
  induction options with
  | nil => exact refused
  | cons flags rest ih =>
    unfold tryFlags
    rw [keeps_bind, keeps_shmget]
    exact ⟨ih, granted⟩

/-- The search ends with the one segment it found, or with none. -/
theorem trySizes_keeps (options : List UInt64) {held : Multiset Resource}
    {post : Option (Nat × UInt64) → Multiset Resource → Prop} (refused : post none held)
    (granted : ∀ shmid currentSize, post (some (shmid, currentSize)) (.segment shmid ::ₘ held)) :
    Keeps (trySizes ipcPrivate options) held post := by
  induction options with
  | nil => exact refused
  | cons currentSize rest ih =>
    unfold trySizes
    rw [keeps_bind]
    apply tryFlags_keeps
    · exact ih
    · intro shmid
      exact granted shmid currentSize

theorem removeExisting_restores : Restores (removeExisting ipcPrivate) := by
  intro held
  unfold removeExisting
  rw [keeps_bind, keeps_shmget]
  apply And.intro rfl
  intro existingShmid
  rw [keeps_shmctlRemove]

theorem withoutSegment_restores : Restores withoutSegment := by
  intro held
  unfold withoutSegment
  simp only [keeps_bind, keeps_system]
  intro shown limits
  exact demoSharedMemory_restores 1 held

theorem useSegment_keeps (shmid : Nat) (currentSize : UInt64) (held : Multiset Resource) :
    Keeps (useSegment shmid currentSize) (.segment shmid ::ₘ held) fun _ after => after = held := by
  unfold useSegment
  rw [keeps_bind, keeps_shmat _ (Multiset.mem_cons_self _ _)]
  refine ⟨?_, fun address => ?_⟩
  · -- the segment is removed before the other demo runs
    rw [if_pos rfl, keeps_bind, keeps_shmctlRemove, keeps_bind]
    exact (demoSharedMemory_restores 1).keeps rfl
  have attached := Multiset.mem_cons_self (.attachment (.address address))
    (.segment shmid ::ₘ held)
  rw [if_neg (by simp), keeps_bind, keeps_access _ _ attached, keeps_bind]
  apply withChild_keeps
  · simp
  · simp [childWrites, readFirst]
  · simp [readFirst]

theorem demoSysvSharedMemory_restores (sizeMb : UInt64) :
    Restores (demoSysvSharedMemory sizeMb) := by
  intro held
  unfold demoSysvSharedMemory
  rw [keeps_bind, keeps_system]
  intro status
  rw [keeps_bind]
  apply removeExisting_restores.keeps
  rw [keeps_bind]
  apply trySizes_keeps
  · exact withoutSegment_restores held
  · intro shmid currentSize
    exact useSegment_keeps shmid currentSize held

theorem demo_restores (demo : Demo) : Restores demo.action := by
  cases demo with
  | internalMemory sizeMb => exact mallocDemo_restores sizeMb
  | fileMappedMemory sizeMb => exact demoFileMappedMemory_restores sizeMb
  | anonymousMapping sizeMb => exact demoAnonymousMapping_restores sizeMb
  | memoryCompression sizeMb => exact demoMemoryCompression_restores sizeMb
  | pageTable sizeMb chunkSizeKb => exact demoPageTable_restores sizeMb chunkSizeKb
  | anonymousSharedMemory sizeMb => exact demoAnonymousSharedMemory_restores sizeMb
  | sharedMemory sizeMb => exact demoSharedMemory_restores sizeMb
  | sysvSharedMemory sizeMb => exact demoSysvSharedMemory_restores sizeMb
  | purgeableMemory sizeMb => exact mallocDemo_restores sizeMb

/-- Every demo that returns in the parent has released all it acquired, each once, and
nothing else, however its calls went. -/
theorem demo_accounted (demo : Demo) (environment : Environment Call Answer)
    (returned : (run environment [] demo.action).result = some ()) :
    Accounted ((run environment [] demo.action).log.flatMap effect) :=
  accounted_of_safe (demo_restores demo 0) environment returned

theorem demo_accounted_sysv :
    Accounted ((run granting [] (Demo.action (.sysvSharedMemory 1))).log.flatMap effect) :=
  demo_accounted (.sysvSharedMemory 1) granting rfl

end MemoryDemo.Darwin.FootprintDemos
