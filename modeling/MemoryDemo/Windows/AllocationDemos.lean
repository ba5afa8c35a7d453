import Mathlib.Algebra.Order.Ring.Nat
import MemoryDemo.Library.Stride
import MemoryDemo.Windows.Calls

/-! The allocation demos of `windows/process/memory_allocation_demo.cpp`, on a 64-bit build. -/

namespace MemoryDemo.Windows.AllocationDemos
open Library.CallTree Library.Ledger Calls

/-- `sizeMB * 1024 * 1024`. -/
def sizeBytes (sizeMB : UInt64) : UInt64 :=
  sizeMB * 1024 * 1024

/-- The size of the buffer of `createTempFile`. -/
def bufferSize : UInt64 := 4096

/-- The write loop at index `i`. Only an index that wraps outlasts the given number of
rounds, and that loop never ends. -/
def writeChunks (file : Nat) (sizeBytes : UInt64) : Nat → UInt64 → Action Unit
  | 0, _ => .halt
  | rounds + 1, i =>
    if i < sizeBytes then do
      let writeSize := if i + bufferSize > sizeBytes then sizeBytes - i else bufferSize
      writeStream file writeSize
      writeChunks file sizeBytes rounds (i + bufferSize)
    else return ()

/-- The part of `createTempFile` behind the opening of the stream. -/
def fillTempFile (file : Nat) (tempFileName : String) (sizeBytes : UInt64) : Action String := do
  writeChunks file sizeBytes (sizeBytes.toNat / 4096 + 2) 0
  closeStream file
  return tempFileName

def createTempFile (sizeBytes : UInt64) : Action String := do
  let tempPath ← getTempPath
  let tempFileName ← getTempFileName tempPath "mem"
  let some file ← openOutput tempFileName.path
    | return ""
  fillTempFile file tempFileName.path sizeBytes

def demoAnonymousPrivate (sizeMB : UInt64) : Action Unit := do
  let privateMem ← virtualAlloc (sizeBytes sizeMB)
  if privateMem = .null then
    return ()
  access (.allocation privateMem) (sizeBytes sizeMB)
  virtualFree privateMem

def demoAnonymousShared (sizeMB : UInt64) : Action Unit := do
  let hMapFile ← createFileMapping .invalid .pageReadWrite (sizeBytes sizeMB).toUInt32
    (some "AnonymousSharedDemo")
  if hMapFile = .null then
    return ()
  let pBuf ← mapViewOfFile hMapFile .fileMapAllAccess (sizeBytes sizeMB)
  if pBuf = .null then
    closeHandle hMapFile
    return ()
  access (.view pBuf) (sizeBytes sizeMB)
  unmapViewOfFile pBuf
  closeHandle hMapFile

/-- How the two demos of mapped files open and map their file. -/
structure FileMapping where
  share : ShareMode
  protect : Protect
  name : Option String
  viewAccess : ViewAccess
  deriving DecidableEq, Repr

/-- The part of the demos of mapped files behind `createTempFile`. -/
def mapTempFile (mapping : FileMapping) (sizeMB : UInt64) (tempFileName : String) :
    Action Unit := do
  if tempFileName = "" then
    return ()
  let hFile ← createFile tempFileName mapping.share
  if hFile = .invalid then
    deleteFile tempFileName
    return ()
  let hMapFile ← createFileMapping hFile mapping.protect 0 mapping.name
  if hMapFile = .null then
    closeHandle hFile
    deleteFile tempFileName
    return ()
  let pBuf ← mapViewOfFile hMapFile mapping.viewAccess (sizeBytes sizeMB)
  if pBuf = .null then
    closeHandle hMapFile
    closeHandle hFile
    deleteFile tempFileName
    return ()
  access (.view pBuf) (sizeBytes sizeMB)
  unmapViewOfFile pBuf
  closeHandle hMapFile
  closeHandle hFile
  deleteFile tempFileName

def demoFileMapped (mapping : FileMapping) (sizeMB : UInt64) : Action Unit := do
  let tempFileName ← createTempFile (sizeBytes sizeMB)
  mapTempFile mapping sizeMB tempFileName

def demoFileMappedPrivate (sizeMB : UInt64) : Action Unit :=
  demoFileMapped ⟨.exclusive, .pageReadOnly, none, .fileMapCopy⟩ sizeMB

def demoFileMappedShared (sizeMB : UInt64) : Action Unit :=
  demoFileMapped ⟨.readWrite, .pageReadWrite, some "FileMappedSharedDemo", .fileMapAllAccess⟩ sizeMB

inductive Demo where
  | anonymousPrivate (sizeMB : UInt64)
  | anonymousShared (sizeMB : UInt64)
  | fileMappedPrivate (sizeMB : UInt64)
  | fileMappedShared (sizeMB : UInt64)
  deriving DecidableEq, Repr

def Demo.action : Demo → Action Unit
  | .anonymousPrivate sizeMB => demoAnonymousPrivate sizeMB
  | .anonymousShared sizeMB => demoAnonymousShared sizeMB
  | .fileMappedPrivate sizeMB => demoFileMappedPrivate sizeMB
  | .fileMappedShared sizeMB => demoFileMappedShared sizeMB

/-- Adding a chunk to an index of the write loop does not wrap. -/
theorem next_index {sizeBytes i : UInt64} (bounded : sizeBytes.toNat + 4096 ≤ 2 ^ 64)
    (below : i < sizeBytes) : (i + bufferSize).toNat = i.toNat + 4096 :=
  Library.Stride.next_toNat below bounded

/-- The loop ends when its rounds reach the size and the index stays in 64 bits. -/
theorem writeChunks_returns (file : Nat) {sizeBytes : UInt64}
    (bounded : sizeBytes.toNat + 4096 ≤ 2 ^ 64) (rounds : Nat) (i : UInt64)
    (enough : sizeBytes.toNat ≤ i.toNat + 4096 * rounds) :
    Returns (writeChunks file sizeBytes (rounds + 1) i) := by
  induction rounds generalizing i with
  | zero =>
    unfold writeChunks
    rw [if_neg (by rw [UInt64.lt_iff_toNat_lt]; omega)]
    trivial
  | succ rounds ih =>
    unfold writeChunks
    split
    next inside =>
      have next := next_index bounded inside
      exact fun _ => ih (i + bufferSize) (by omega)
    next => trivial

/-- Sizes in megabytes are multiples of 4096, also where the product wraps. -/
theorem sizeBytes_bounded (sizeMB : UInt64) : (sizeBytes sizeMB).toNat + 4096 ≤ 2 ^ 64 := by
  simp only [sizeBytes, UInt64.toNat_mul, UInt64.toNat_ofNat]
  omega

theorem writeChunks_keeps {file : Nat} (sizeBytes : UInt64) (rounds : Nat) (i : UInt64)
    {held : Multiset Resource} (member : .stream file ∈ held) :
    Keeps (writeChunks file sizeBytes rounds i) held fun _ after => after = held := by
  induction rounds generalizing i with
  | zero => trivial
  | succ rounds ih =>
    unfold writeChunks
    split
    next =>
      rw [keeps_bind, keeps_writeStream _ _ member]
      exact ih (i + bufferSize)
    next => exact rfl

theorem fillTempFile_keeps (file : Nat) (tempFileName : String) (sizeBytes : UInt64)
    {held : Multiset Resource} {post : String → Multiset Resource → Prop}
    (holds : post tempFileName held) :
    Keeps (fillTempFile file tempFileName sizeBytes) (.stream file ::ₘ held) post := by
  unfold fillTempFile
  rw [keeps_bind]
  apply (writeChunks_keeps _ _ _ (Multiset.mem_cons_self _ _)).mono
  intro value after same
  rw [same, keeps_bind, keeps_closeStream]
  exact holds

/-- A file that is there under its name is gone in the end, however far the mapping gets. -/
theorem mapTempFile_keeps (mapping : FileMapping) (sizeMB : UInt64) {tempFileName : String}
    (named : tempFileName ≠ "") (held : Multiset Resource) :
    Keeps (mapTempFile mapping sizeMB tempFileName) (.tempFile tempFileName ::ₘ held)
      fun _ after => after = held := by
  unfold mapTempFile
  rw [if_neg named, keeps_bind, keeps_createFile]
  refine ⟨?_, fun file => ?_⟩
  · -- the file cannot be opened
    simp
  rw [if_neg (by simp), keeps_bind,
    keeps_createFileMapping_file _ _ _ _ (Multiset.mem_cons_self _ _)]
  refine ⟨?_, fun map => ?_⟩
  · -- the file is open and has no mapping
    simp
  rw [if_neg (by simp), keeps_bind, keeps_mapViewOfFile _ _ _ (Multiset.mem_cons_self _ _)]
  refine ⟨?_, fun start => ?_⟩
  · -- the mapping has no view
    simp
  · simp

theorem demoAnonymousPrivate_keeps (sizeMB : UInt64) (held : Multiset Resource) :
    Keeps (demoAnonymousPrivate sizeMB) held fun _ after => after = held := by
  unfold demoAnonymousPrivate
  rw [keeps_bind, keeps_virtualAlloc]
  refine ⟨rfl, fun start => ?_⟩
  simp

theorem demoAnonymousShared_keeps (sizeMB : UInt64) (held : Multiset Resource) :
    Keeps (demoAnonymousShared sizeMB) held fun _ after => after = held := by
  unfold demoAnonymousShared
  rw [keeps_bind, keeps_createFileMapping_paging]
  refine ⟨rfl, fun map => ?_⟩
  rw [if_neg (by simp), keeps_bind, keeps_mapViewOfFile _ _ _ (Multiset.mem_cons_self _ _)]
  refine ⟨?_, fun start => ?_⟩
  · simp
  · simp

/-- What a demo of a mapped file does once the opening of the stream is answered. -/
def afterOpening (mapping : FileMapping) (sizeMB : UInt64) (tempFileName : TempFileName) :
    Option Nat → Action Unit
  | some file => fillTempFile file tempFileName.path (sizeBytes sizeMB) >>= mapTempFile mapping sizeMB
  | none => return ()

theorem demoFileMapped_eq (mapping : FileMapping) (sizeMB : UInt64) :
    demoFileMapped mapping sizeMB =
      ask .getTempPath >>= fun tempPath =>
        ask (.getTempFileName tempPath "mem") >>= fun tempFileName =>
          ask (.openOutput tempFileName.path) >>= afterOpening mapping sizeMB tempFileName := by
  unfold demoFileMapped createTempFile
  rw [Program.bind_assoc]
  congr 1
  funext tempPath
  rw [Program.bind_assoc]
  congr 1
  funext tempFileName
  rw [Program.bind_assoc]
  congr 1
  funext opened
  cases opened with
  | none => rfl
  | some file => rfl

/-- The exchanges with which the demos of mapped files begin. -/
def opening (tempPath : String) (tempFileName : TempFileName) (opened : Option Nat) : List Step :=
  [⟨.getTempPath, tempPath⟩, ⟨.getTempFileName tempPath "mem", tempFileName⟩,
    ⟨.openOutput tempFileName.path, opened⟩]

/-- The answer to the opening of the stream in `createTempFile`. -/
def streamAnswer (environment : Environment Call Answer) : Option Nat :=
  let tempPath := environment [] .getTempPath
  let path : Step := ⟨.getTempPath, tempPath⟩
  let tempFileName := environment [path] (.getTempFileName tempPath "mem")
  environment [path, ⟨.getTempFileName tempPath "mem", tempFileName⟩] (.openOutput tempFileName.path)

theorem demoFileMapped_run (mapping : FileMapping) (sizeMB : UInt64)
    (environment : Environment Call Answer) :
    ∃ tempPath tempFileName, run environment [] (demoFileMapped mapping sizeMB) =
      ⟨opening tempPath tempFileName (streamAnswer environment) ++
          (run environment (opening tempPath tempFileName (streamAnswer environment))
            (afterOpening mapping sizeMB tempFileName (streamAnswer environment))).log,
        (run environment (opening tempPath tempFileName (streamAnswer environment))
          (afterOpening mapping sizeMB tempFileName (streamAnswer environment))).result⟩ := by
  rw [demoFileMapped_eq]
  exact ⟨_, _, rfl⟩

theorem demoFileMapped_accounted_iff (mapping : FileMapping) (sizeMB : UInt64)
    (environment : Environment Call Answer)
    (returned : (run environment [] (demoFileMapped mapping sizeMB)).result = some ()) :
    Accounted ((run environment [] (demoFileMapped mapping sizeMB)).log.flatMap effect) ↔
      streamAnswer environment ≠ none := by
  obtain ⟨tempPath, tempFileName, ran⟩ := demoFileMapped_run mapping sizeMB environment
  rw [ran] at returned ⊢
  rw [accounted_iff_replay, List.flatMap_append, replay_append]
  cases opened : streamAnswer environment with
  | none =>
    -- all that is held is the file that came with the name, and nothing deletes it
    change some (Resource.tempFile tempFileName.path ::ₘ 0) = some 0 ↔ _
    simp
  | some file =>
    rw [opened] at returned
    have keeps : Keeps (afterOpening mapping sizeMB tempFileName (some file))
        (.stream file ::ₘ .tempFile tempFileName.path ::ₘ 0) fun _ after => after = 0 := by
      unfold afterOpening
      rw [keeps_bind]
      apply fillTempFile_keeps
      exact mapTempFile_keeps mapping sizeMB tempFileName.named 0
    obtain ⟨final, replayed, nothing⟩ := replay_of_safe keeps environment _ returned
    change replay (Resource.stream file ::ₘ Resource.tempFile tempFileName.path ::ₘ 0) _ = some 0 ↔ _
    rw [replayed, nothing]
    simp

theorem createTempFile_returns (sizeMB : UInt64) : Returns (createTempFile (sizeBytes sizeMB)) := by
  unfold createTempFile
  refine Returns.bind (fun _ => trivial) fun tempPath => ?_
  refine Returns.bind (fun _ => trivial) fun tempFileName => ?_
  refine Returns.bind (fun _ => trivial) fun opened => ?_
  cases opened with
  | none => trivial
  | some file =>
    have rounds : (sizeBytes sizeMB).toNat ≤
        (0 : UInt64).toNat + 4096 * ((sizeBytes sizeMB).toNat / 4096 + 1) := by
      rw [UInt64.toNat_zero]
      omega
    exact (writeChunks_returns file (sizeBytes_bounded sizeMB) _ 0 rounds).bind
      fun _ _ => trivial

theorem mapTempFile_returns (mapping : FileMapping) (sizeMB : UInt64) (tempFileName : String) :
    Returns (mapTempFile mapping sizeMB tempFileName) := by
  unfold mapTempFile
  split
  next => trivial
  next =>
    intro file
    cases file with
    | none => exact fun _ => trivial
    | some file =>
      intro map
      cases map with
      | none => exact fun _ _ => trivial
      | some map =>
        intro start
        cases start with
        | none => exact fun _ _ _ => trivial
        | some start => exact fun _ _ _ _ _ => trivial

/-- Every run of a demo comes to its end. -/
theorem demo_returns (demo : Demo) : Returns demo.action := by
  cases demo with
  | anonymousPrivate sizeMB =>
    intro start
    cases start with
    | none => trivial
    | some start => exact fun _ _ => trivial
  | anonymousShared sizeMB =>
    intro map
    cases map with
    | none => trivial
    | some map =>
      intro start
      cases start with
      | none => exact fun _ => trivial
      | some start => exact fun _ _ _ => trivial
  | fileMappedPrivate sizeMB => exact (createTempFile_returns sizeMB).bind (mapTempFile_returns _ _)
  | fileMappedShared sizeMB => exact (createTempFile_returns sizeMB).bind (mapTempFile_returns _ _)

/-- The demos that make a file. -/
def Demo.mapsFile : Demo → Bool
  | .anonymousPrivate _ => false
  | .anonymousShared _ => false
  | .fileMappedPrivate _ => true
  | .fileMappedShared _ => true

/-- Every run of a demo returns, and it has given back all it acquired, each once, unless
it makes a file and the stream for it does not open: then the file is left on disk. -/
theorem allocationDemo_accounted_iff (demo : Demo) (environment : Environment Call Answer) :
    (run environment [] demo.action).result = some () ∧
      (Accounted ((run environment [] demo.action).log.flatMap effect) ↔
        (demo.mapsFile = true → streamAnswer environment ≠ none)) := by
  obtain ⟨⟨⟩, returned⟩ := (demo_returns demo).run environment []
  refine ⟨returned, ?_⟩
  cases demo with
  | anonymousPrivate sizeMB =>
    have accounted := accounted_of_safe (demoAnonymousPrivate_keeps sizeMB 0) environment returned
    exact ⟨fun _ => nofun, fun _ => accounted⟩
  | anonymousShared sizeMB =>
    have accounted := accounted_of_safe (demoAnonymousShared_keeps sizeMB 0) environment returned
    exact ⟨fun _ => nofun, fun _ => accounted⟩
  | fileMappedPrivate sizeMB =>
    exact (demoFileMapped_accounted_iff _ sizeMB environment returned).trans
      ⟨fun opened _ => opened, fun opened => opened rfl⟩
  | fileMappedShared sizeMB =>
    exact (demoFileMapped_accounted_iff _ sizeMB environment returned).trans
      ⟨fun opened _ => opened, fun opened => opened rfl⟩

/-- The calls for the name succeed, and no other call does. -/
def refusing : Environment Call Answer := fun _ request =>
  match request with
  | .virtualAlloc _ | .openOutput _ | .createFile _ _ => none
  | .createFileMapping _ _ _ _ | .mapViewOfFile _ _ _ => none
  | .getTempPath => "C:\\TEMP\\"
  | .getTempFileName _ _ => ⟨"C:\\TEMP\\mem1A2B.tmp", by decide⟩
  | .virtualFree _ | .access _ _ | .writeStream _ _ | .closeStream _ => ()
  | .unmapViewOfFile _ | .closeHandle _ | .deleteFile _ => ()

theorem fileMappedPrivate_refusing_leaks :
    (run refusing [] (Demo.action (.fileMappedPrivate 50))).result = some () ∧
      ¬ Accounted
        ((run refusing [] (Demo.action (.fileMappedPrivate 50))).log.flatMap effect) := by
  refine ⟨rfl, ?_⟩
  change ¬ Accounted ((run refusing [] (demoFileMapped _ 50)).log.flatMap effect)
  rw [demoFileMapped_accounted_iff _ 50 refusing rfl]
  exact fun opened => opened rfl

end MemoryDemo.Windows.AllocationDemos
