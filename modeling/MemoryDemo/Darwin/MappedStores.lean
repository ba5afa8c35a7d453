import MemoryDemo.Darwin.FootprintDemos
import MemoryDemo.Library.Streams
import MemoryDemo.Library.Stride
import MemoryDemo.System.Statistics

/-! The stores of `demo_file_mapped_memory` and of `macos/process/file_mapping_dirty_demo.cpp`
through their mappings, and the file behind them: a store on a page that lies past the end of
the file faults. -/

namespace MemoryDemo.Darwin.MappedStores
open Library.CallTree Library.Ledger Library.Streams Library.Stride Calls FootprintDemos
open System.Statistics (PageSize page4096)

/-- `file_size_mb`. -/
def fileSizeMb : UInt64 := 500

/-- The part of `main` behind `create_temp_file`. -/
def mapWholeFile (filename : String) : Action Int := do
  if filename = "" then
    return 1
  let some fd ← openFile filename .readWrite
    | do
      cleanupTempFile filename
      return 1
  let some fileSize ← fstat fd
    | do
      close fd
      cleanupTempFile filename
      return 1
  let mappedMemory ← mmap fileSize .readWrite .mapShared (some fd)
  if mappedMemory = .mapFailed then
    close fd
    cleanupTempFile filename
    return 1
  access (.range mappedMemory fileSize) fileSize
  munmap mappedMemory fileSize
  close fd
  cleanupTempFile filename
  return 0

/-- `main` of `file_mapping_dirty_demo.cpp`, with its exit status. -/
def fileMappingDirtyDemo : Action Int := do
  let filename ← namedTempFile "/tmp/file_mapping_demo_" fileSizeMb
  mapWholeFile filename

/-- The file that a program writes through a stream, and the number of writes to it. -/
structure TempFile where
  stream : OutputStream
  calls : Nat
  deriving DecidableEq, Repr

def TempFile.fresh : TempFile :=
  ⟨.fresh, 0⟩

/-- The end of the last page that lies at least partly below a length. -/
def roundUp (length page : Nat) : Nat :=
  (length + page - 1) / page * page

/-- The loop `for (size_t i = 0; i < bytes; i += 4096)` comes to its end, and each of its
stores falls on a page with a part of the file. -/
def TempFile.storesInside (pageSize : PageSize) (file : TempFile) (bytes : UInt64) : Bool :=
  (indices bytes 4096 (bytes.toNat / 4096 + 2)).any fun offsets =>
    offsets.all fun offset => offset.toNat < roundUp file.stream.length pageSize.bytes.toNat

/-- The file after an exchange, with `none` for a fault. -/
def TempFile.exchange (accepts : Nat → Nat) (pageSize : PageSize) (file : TempFile) :
    Step → Option TempFile
  | ⟨.openOutput _, some _⟩ => some .fresh
  | ⟨.writeStream _ bytes, _⟩ =>
    some ⟨file.stream.write bytes.toNat (accepts file.calls), file.calls + 1⟩
  | ⟨.access (.range _ _) bytes, _⟩ => if file.storesInside pageSize bytes then some file else none
  | _ => some file

/-- No store of a run faults. -/
def Inside (accepts : Nat → Nat) (pageSize : PageSize) (log : List Step) : Prop :=
  (follow (TempFile.exchange accepts pageSize) .fresh log).isSome

/-- An environment whose `fstat` reports the length of the file, wherever it does not fail. -/
def reporting (accepts : Nat → Nat) (pageSize : PageSize) (environment : Environment Call Answer) :
    Environment Call Answer := fun past request =>
  match request with
  | .fstat fd =>
    (environment past (.fstat fd)).bind fun _ =>
      (follow (TempFile.exchange accepts pageSize) .fresh past).map fun file =>
        UInt64.ofNat file.stream.length
  | request => environment past request

/-- The file as the writes of `create_temp_file` leave it. -/
def filled (accepts : Nat → Nat) (sizeMb : UInt64) : TempFile :=
  ⟨writes accepts 0 (List.replicate sizeMb.toNat chunkSize.toNat) .fresh, sizeMb.toNat⟩

/-- The exchanges that make and fill a file. -/
def filling (start : String) (pid file : Nat) (sizeMb : UInt64) : List Step :=
  ⟨.getpid, pid⟩ :: ⟨.openOutput (tempName start pid), some file⟩ ::
    (List.replicate sizeMb.toNat ⟨.writeStream file chunkSize, ()⟩ ++ [⟨.closeStream file, ()⟩])

/-- The answer to the `mmap` of `demo_file_mapped_memory`, with `none` also where the demo
does not get that far. -/
def mapAnswer (environment : Environment Call Answer) (sizeMb : UInt64) : Option Nat :=
  let pid := environment [] .getpid
  let filename := tempName "/tmp/memory_demo_" pid
  (environment [⟨.getpid, pid⟩] (.openOutput filename)).bind fun file =>
    let past := filling "/tmp/memory_demo_" pid file sizeMb
    (environment past (.openFile filename .readWrite)).bind fun fd =>
      environment (past ++ [⟨.openFile filename .readWrite, some fd⟩])
        (.mmap (sizeBytes sizeMb) .readWrite .mapShared (some fd))

theorem storesInside_iff (pageSize : PageSize) (file : TempFile) {bytes : UInt64}
    (bounded : bytes.toNat + 4096 ≤ 2 ^ 64) :
    file.storesInside pageSize bytes = true ↔
      ∀ offset : UInt64, offset < bytes → 4096 ∣ offset.toNat →
        offset.toNat < roundUp file.stream.length pageSize.bytes.toNat := by
  have enough : bytes.toNat / (4096 : UInt64).toNat + 1 < bytes.toNat / 4096 + 2 :=
    Nat.lt_succ_self _
  obtain ⟨offsets, ended, members⟩ :=
    indices_of_bounded (show 0 < (4096 : UInt64).toNat by decide) bounded enough
  rw [TempFile.storesInside, ended]
  simp only [Option.any_some, List.all_eq_true, decide_eq_true_eq, members]
  constructor
  · intro inside offset below stride
    exact inside offset ⟨below, stride⟩
  · intro inside offset both
    exact inside offset both.1 both.2

theorem le_roundUp (length : Nat) (pageSize : PageSize) :
    length ≤ roundUp length pageSize.bytes.toNat := by
  have positive := pageSize.positive
  have whole := Nat.div_add_mod' (length + pageSize.bytes.toNat - 1) pageSize.bytes.toNat
  have part := Nat.mod_lt (length + pageSize.bytes.toNat - 1) positive
  rw [roundUp]
  omega

/-- Stores below the end of the file are inside it. -/
theorem storesInside_of_le (pageSize : PageSize) (file : TempFile) {bytes : UInt64}
    (bounded : bytes.toNat + 4096 ≤ 2 ^ 64) (within : bytes.toNat ≤ file.stream.length) :
    file.storesInside pageSize bytes = true := by
  rw [storesInside_iff pageSize file bounded]
  intro offset below _
  rw [UInt64.lt_iff_toNat_lt] at below
  have round := le_roundUp file.stream.length pageSize
  omega

/-- For a whole number of strides the last store decides. -/
theorem storesInside_strides_iff (pageSize : PageSize) (file : TempFile) {bytes : UInt64}
    (bounded : bytes.toNat + 4096 ≤ 2 ^ 64) (strides : 4096 ∣ bytes.toNat) :
    file.storesInside pageSize bytes = true ↔
      bytes.toNat < roundUp file.stream.length pageSize.bytes.toNat + 4096 := by
  rw [storesInside_iff pageSize file bounded]
  constructor
  · intro inside
    by_cases empty : bytes.toNat = 0
    · omega
    · have last : (bytes - 4096).toNat = bytes.toNat - 4096 :=
        UInt64.toNat_sub_of_le _ _ (UInt64.le_iff_toNat_le.mpr (by
          change 4096 ≤ bytes.toNat
          omega))
      have store := inside (bytes - 4096) (UInt64.lt_iff_toNat_lt.mpr (by omega)) (by omega)
      omega
  · intro reached offset below stride
    rw [UInt64.lt_iff_toNat_lt] at below
    omega

/-- Sizes in megabytes are whole strides and leave room for one more, also where the
product wraps. -/
theorem sizeBytes_strides (sizeMb : UInt64) :
    (sizeBytes sizeMb).toNat + 4096 ≤ 2 ^ 64 ∧ 4096 ∣ (sizeBytes sizeMb).toNat := by
  simp only [sizeBytes, UInt64.toNat_mul, UInt64.toNat_ofNat]
  omega

theorem writeChunks_run (environment : Environment Call Answer) (past : List Step) (file : Nat)
    (count : Nat) :
    run environment past (writeChunks file count) =
      ⟨List.replicate count ⟨.writeStream file chunkSize, ()⟩, some ()⟩ := by
  induction count generalizing past with
  | zero => rfl
  | succ left ih =>
    unfold writeChunks
    change run environment past (Program.ask (.writeStream file chunkSize) >>= _) = _
    rw [run_ask environment past (.writeStream file chunkSize) _ rfl, ih, List.replicate_succ]

/-- A run of `create_temp_file`, by the answer to the opening of its stream. -/
def tempFileRun (start : String) (pid : Nat) (sizeMb : UInt64) :
    Option Nat → Run Call Answer String
  | none => ⟨[⟨.getpid, pid⟩, ⟨.openOutput (tempName start pid), none⟩], some ""⟩
  | some file => ⟨filling start pid file sizeMb, some (tempName start pid)⟩

theorem namedTempFile_run (start : String) (sizeMb : UInt64)
    (environment : Environment Call Answer) :
    run environment [] (namedTempFile start sizeMb) =
      tempFileRun start (environment [] .getpid) sizeMb
        (environment [⟨.getpid, environment [] .getpid⟩]
          (.openOutput (tempName start (environment [] .getpid)))) := by
  unfold namedTempFile
  change run environment [] (Program.ask .getpid >>= _) = _
  rw [run_ask environment [] .getpid _ rfl, List.nil_append]
  generalize environment [] .getpid = pid
  change Run.mk (_ :: (run environment _ (Program.ask _ >>= _)).log)
    (run environment _ (Program.ask _ >>= _)).result = _
  cases opened : environment [⟨.getpid, pid⟩] (.openOutput (tempName start pid)) with
  | none =>
    rw [run_ask environment _ _ _ opened]
    rfl
  | some file =>
    rw [run_ask environment _ _ _ opened]
    change Run.mk (_ :: _ :: (run environment _ (writeChunks file sizeMb.toNat >>= _)).log)
      (run environment _ (writeChunks file sizeMb.toNat >>= _)).result = _
    rw [run_bind environment _ _ _ (by rw [writeChunks_run]), writeChunks_run]
    rfl

theorem follow_writes (accepts : Nat → Nat) (pageSize : PageSize) (id count : Nat)
    (file : TempFile) :
    follow (TempFile.exchange accepts pageSize) file
        (List.replicate count ⟨.writeStream id chunkSize, ()⟩) =
      some ⟨writes accepts file.calls (List.replicate count chunkSize.toNat) file.stream,
        file.calls + count⟩ := by
  induction count generalizing file with
  | zero => rfl
  | succ count ih =>
    rw [List.replicate_succ, follow]
    change follow (TempFile.exchange accepts pageSize)
      ⟨file.stream.write chunkSize.toNat (accepts file.calls), file.calls + 1⟩ _ = _
    rw [ih, List.replicate_succ, writes, Nat.add_right_comm, Nat.add_assoc]

theorem follow_filling (accepts : Nat → Nat) (pageSize : PageSize) (start : String)
    (pid file : Nat) (sizeMb : UInt64) :
    follow (TempFile.exchange accepts pageSize) .fresh (filling start pid file sizeMb) =
      some (filled accepts sizeMb) := by
  change follow (TempFile.exchange accepts pageSize) .fresh (List.replicate _ _ ++ [_]) = _
  rw [follow_append, follow_writes, Option.bind_some, TempFile.fresh, Nat.zero_add]
  rfl

/-- The part of `demo_file_mapped_memory` behind `create_temp_file`. -/
def mapTempFile (sizeMb : UInt64) (filename : String) : Action Unit := do
  if filename = "" then
    return ()
  let some fd ← openFile filename .readWrite
    | cleanupTempFile filename
  let mappedMemory ← mmap (sizeBytes sizeMb) .readWrite .mapShared (some fd)
  if mappedMemory = .mapFailed then
    close fd
    cleanupTempFile filename
    return ()
  access (.range mappedMemory (sizeBytes sizeMb)) (sizeBytes sizeMb)
  munmap mappedMemory (sizeBytes sizeMb)
  close fd
  cleanupTempFile filename

theorem demoFileMappedMemory_eq (sizeMb : UInt64) :
    demoFileMappedMemory sizeMb = namedTempFile "/tmp/memory_demo_" sizeMb >>= mapTempFile sizeMb :=
  rfl

/-- The exchanges behind a successful `mmap` of a whole file. -/
def storing (filename : String) (fd address : Nat) (bytes : UInt64) : List Step :=
  [⟨.mmap bytes .readWrite .mapShared (some fd), some address⟩,
    ⟨.access (.range (.address address) bytes) bytes, ()⟩,
    ⟨.munmap (.address address) bytes, ()⟩, ⟨.close fd, ()⟩, ⟨.remove filename, ()⟩]

/-- The ways through `mapTempFile`, by the answer to its `mmap`. -/
inductive MapTempFile (sizeMb : UInt64) (filename : String) : Option Nat → List Step → Prop where
  | unopened :
      MapTempFile sizeMb filename none
        [⟨.openFile filename .readWrite, none⟩, ⟨.remove filename, ()⟩]
  | unmapped (fd : Nat) :
      MapTempFile sizeMb filename none
        [⟨.openFile filename .readWrite, some fd⟩,
          ⟨.mmap (sizeBytes sizeMb) .readWrite .mapShared (some fd), none⟩, ⟨.close fd, ()⟩,
          ⟨.remove filename, ()⟩]
  | stored (fd address : Nat) :
      MapTempFile sizeMb filename (some address)
        (⟨.openFile filename .readWrite, some fd⟩ ::
          storing filename fd address (sizeBytes sizeMb))

theorem mapTempFile_run (sizeMb : UInt64) {filename : String} (named : filename ≠ "")
    (environment : Environment Call Answer) (past : List Step) :
    MapTempFile sizeMb filename
      ((environment past (.openFile filename .readWrite)).bind fun fd =>
        environment (past ++ [⟨.openFile filename .readWrite, some fd⟩])
          (.mmap (sizeBytes sizeMb) .readWrite .mapShared (some fd)))
      (run environment past (mapTempFile sizeMb filename)).log := by
  unfold mapTempFile cleanupTempFile
  simp only [if_neg named, if_pos named]
  change MapTempFile sizeMb filename _ (run environment past (Program.ask _ >>= _)).log
  cases opened : environment past (.openFile filename .readWrite) with
  | none =>
    rw [run_ask environment past _ _ opened]
    exact .unopened
  | some fd =>
    rw [run_ask environment past _ _ opened, Option.bind_some]
    change MapTempFile sizeMb filename _ (_ :: (run environment _ (Program.ask _ >>= _)).log)
    cases mapped : environment (past ++ [⟨.openFile filename .readWrite, some fd⟩])
        (.mmap (sizeBytes sizeMb) .readWrite .mapShared (some fd)) with
    | none =>
      rw [run_ask environment _ _ _ mapped]
      exact .unmapped fd
    | some address =>
      rw [run_ask environment _ _ _ mapped]
      exact .stored fd address

theorem storing_inside_iff (accepts : Nat → Nat) (pageSize : PageSize) (file : TempFile)
    (filename : String) (fd address : Nat) (bytes : UInt64) :
    (follow (TempFile.exchange accepts pageSize) file
        (storing filename fd address bytes)).isSome = true ↔
      file.storesInside pageSize bytes = true := by
  change ((if file.storesInside pageSize bytes then some file else none).bind fun next =>
    follow (TempFile.exchange accepts pageSize) next _).isSome = true ↔ _
  by_cases inside : file.storesInside pageSize bytes = true
  · rw [if_pos inside]
    exact ⟨fun _ => inside, fun _ => rfl⟩
  · rw [if_neg inside]
    exact ⟨nofun, fun reached => absurd reached inside⟩

theorem inside_append_filling (accepts : Nat → Nat) (pageSize : PageSize) (start : String)
    (pid file : Nat) (sizeMb : UInt64) (log : List Step) :
    Inside accepts pageSize (filling start pid file sizeMb ++ log) ↔
      (follow (TempFile.exchange accepts pageSize) (filled accepts sizeMb) log).isSome = true := by
  rw [Inside, follow_append, follow_filling, Option.bind_some]

/-- Behind `create_temp_file` the last stride of the size that was asked for decides. -/
theorem mapTempFile_inside_iff (accepts : Nat → Nat) (pageSize : PageSize) (file : TempFile)
    {sizeMb : UInt64} {filename : String} {mapped : Option Nat} {log : List Step}
    (way : MapTempFile sizeMb filename mapped log) :
    (follow (TempFile.exchange accepts pageSize) file log).isSome = true ↔
      (mapped ≠ none →
        (sizeBytes sizeMb).toNat < roundUp file.stream.length pageSize.bytes.toNat + 4096) := by
  cases way with
  | unopened => exact ⟨fun _ got => absurd rfl got, fun _ => rfl⟩
  | unmapped fd => exact ⟨fun _ got => absurd rfl got, fun _ => rfl⟩
  | stored fd address =>
    obtain ⟨bounded, strides⟩ := sizeBytes_strides sizeMb
    change (follow (TempFile.exchange accepts pageSize) file (storing filename fd address _)).isSome =
      true ↔ _
    rw [storing_inside_iff, storesInside_strides_iff pageSize file bounded strides]
    exact ⟨fun reached _ => reached, fun reached => reached (Option.some_ne_none address)⟩

theorem demoFileMappedMemory_inside_iff (accepts : Nat → Nat) (pageSize : PageSize)
    (environment : Environment Call Answer) (sizeMb : UInt64) :
    Inside accepts pageSize (run environment [] (demoFileMappedMemory sizeMb)).log ↔
      (mapAnswer environment sizeMb ≠ none →
        (sizeBytes sizeMb).toNat <
          roundUp (filled accepts sizeMb).stream.length pageSize.bytes.toNat + 4096) := by
  rw [demoFileMappedMemory_eq, mapAnswer]
  have made := namedTempFile_run "/tmp/memory_demo_" sizeMb environment
  generalize environment [] .getpid = pid at made ⊢
  cases opened : environment [⟨.getpid, pid⟩]
      (.openOutput (tempName "/tmp/memory_demo_" pid)) with
  | none =>
    rw [opened] at made
    rw [run_bind environment [] _ _ (by rw [made]; rfl), made]
    exact ⟨fun _ got => absurd rfl got, fun _ => rfl⟩
  | some file =>
    rw [opened] at made
    rw [run_bind environment [] _ _ (by rw [made]; rfl), made, List.nil_append]
    exact (inside_append_filling ..).trans (mapTempFile_inside_iff accepts pageSize _
      (mapTempFile_run sizeMb (tempName_ne_empty _ pid) environment _))

/-- The ways through `mapWholeFile`, by the sizes that `fstat` may report. -/
inductive MapWholeFile (reported : Nat → Option UInt64) (filename : String) :
    List Step → Prop where
  | unopened :
      MapWholeFile reported filename
        [⟨.openFile filename .readWrite, none⟩, ⟨.remove filename, ()⟩]
  | unreported (fd : Nat) :
      MapWholeFile reported filename
        [⟨.openFile filename .readWrite, some fd⟩, ⟨.fstat fd, none⟩, ⟨.close fd, ()⟩,
          ⟨.remove filename, ()⟩]
  | unmapped (fd : Nat) (fileSize : UInt64) :
      MapWholeFile reported filename
        [⟨.openFile filename .readWrite, some fd⟩, ⟨.fstat fd, some fileSize⟩,
          ⟨.mmap fileSize .readWrite .mapShared (some fd), none⟩, ⟨.close fd, ()⟩,
          ⟨.remove filename, ()⟩]
  | stored (fd address : Nat) (fileSize : UInt64) (size : reported fd = some fileSize) :
      MapWholeFile reported filename
        (⟨.openFile filename .readWrite, some fd⟩ :: ⟨.fstat fd, some fileSize⟩ ::
          storing filename fd address fileSize)

theorem mapWholeFile_run {filename : String} (named : filename ≠ "")
    (environment : Environment Call Answer) (past : List Step) :
    MapWholeFile
      (fun fd => environment (past ++ [⟨.openFile filename .readWrite, some fd⟩]) (.fstat fd))
      filename (run environment past (mapWholeFile filename)).log := by
  unfold mapWholeFile cleanupTempFile
  simp only [if_neg named, if_pos named]
  change MapWholeFile _ filename (run environment past (Program.ask _ >>= _)).log
  cases opened : environment past (.openFile filename .readWrite) with
  | none =>
    rw [run_ask environment past _ _ opened]
    exact .unopened
  | some fd =>
    rw [run_ask environment past _ _ opened]
    change MapWholeFile _ filename (_ :: (run environment _ (Program.ask _ >>= _)).log)
    cases size : environment (past ++ [⟨.openFile filename .readWrite, some fd⟩]) (.fstat fd) with
    | none =>
      rw [run_ask environment _ _ _ size]
      exact .unreported fd
    | some fileSize =>
      rw [run_ask environment _ _ _ size]
      change MapWholeFile _ filename (_ :: _ :: (run environment _ (Program.ask _ >>= _)).log)
      cases mapped : environment
          (past ++ [⟨.openFile filename .readWrite, some fd⟩] ++ [⟨.fstat fd, some fileSize⟩])
          (.mmap fileSize .readWrite .mapShared (some fd)) with
      | none =>
        rw [run_ask environment _ _ _ mapped]
        exact .unmapped fd fileSize
      | some address =>
        rw [run_ask environment _ _ _ mapped]
        exact .stored fd address fileSize size

theorem filled_length_le (accepts : Nat → Nat) (sizeMb : UInt64) :
    (filled accepts sizeMb).stream.length ≤ sizeMb.toNat * 2 ^ 20 := by
  have bound := writes_length_le accepts 0 (List.replicate sizeMb.toNat chunkSize.toNat) .fresh
  rw [List.sum_replicate_nat, OutputStream.fresh, Nat.zero_add] at bound
  exact bound

/-- What `fstat` reports of the file, right after it was filled and opened. -/
theorem reported_le {accepts : Nat → Nat} {pageSize : PageSize}
    {environment : Environment Call Answer} {start filename : String} {pid file fd : Nat}
    {sizeMb fileSize : UInt64}
    (reported : reporting accepts pageSize environment
      (filling start pid file sizeMb ++ [⟨.openFile filename .readWrite, some fd⟩]) (.fstat fd) =
        some fileSize) :
    fileSize.toNat ≤ (filled accepts sizeMb).stream.length := by
  have contents : follow (TempFile.exchange accepts pageSize) .fresh
      (filling start pid file sizeMb ++ [⟨.openFile filename .readWrite, some fd⟩]) =
        some (filled accepts sizeMb) := by
    rw [follow_append, follow_filling]
    rfl
  rw [reporting, contents, Option.bind_eq_some_iff] at reported
  obtain ⟨_, _, same⟩ := reported
  rw [Option.map_some, Option.some.injEq] at same
  rw [← same, UInt64.toNat_ofNat']
  exact Nat.mod_le _ _

/-- Behind `create_temp_file` the stores end with the size that `fstat` reported. -/
theorem mapWholeFile_inside (accepts : Nat → Nat) (pageSize : PageSize) (file : TempFile)
    {reported : Nat → Option UInt64} {filename : String} {log : List Step}
    (way : MapWholeFile reported filename log)
    (within : ∀ fd fileSize, reported fd = some fileSize → fileSize.toNat ≤ file.stream.length)
    (bounded : file.stream.length + 4096 ≤ 2 ^ 64) :
    (follow (TempFile.exchange accepts pageSize) file log).isSome = true := by
  cases way with
  | unopened => rfl
  | unreported fd => rfl
  | unmapped fd fileSize => rfl
  | stored fd address fileSize size =>
    have length := within fd fileSize size
    change (follow (TempFile.exchange accepts pageSize) file
      (storing filename fd address fileSize)).isSome = true
    rw [storing_inside_iff]
    exact storesInside_of_le pageSize file (by omega) length

/-- `file_mapping_dirty_demo` maps the file as long as it is, and stays inside. -/
theorem fileMappingDirtyDemo_inside (accepts : Nat → Nat) (pageSize : PageSize)
    (environment : Environment Call Answer) :
    Inside accepts pageSize
      (run (reporting accepts pageSize environment) [] fileMappingDirtyDemo).log := by
  unfold fileMappingDirtyDemo
  have made := namedTempFile_run "/tmp/file_mapping_demo_" fileSizeMb
    (reporting accepts pageSize environment)
  generalize reporting accepts pageSize environment [] .getpid = pid at made
  cases opened : reporting accepts pageSize environment [⟨.getpid, pid⟩]
      (.openOutput (tempName "/tmp/file_mapping_demo_" pid)) with
  | none =>
    rw [opened] at made
    rw [run_bind _ [] _ _ (by rw [made]; rfl), made]
    rfl
  | some file =>
    rw [opened] at made
    rw [run_bind _ [] _ _ (by rw [made]; rfl), made, List.nil_append]
    have few : (filled accepts fileSizeMb).stream.length ≤ 500 * 2 ^ 20 :=
      filled_length_le accepts fileSizeMb
    exact (inside_append_filling ..).mpr (mapWholeFile_inside accepts pageSize _
      (mapWholeFile_run (tempName_ne_empty _ pid) _ _) (fun _ _ => reported_le) (by omega))

/-- The demo stays inside its file if and only if it never gets a mapping, or the writes
brought enough into the file: up to the end of its last page the file has to reach beyond
the last stride of the size that was asked for. The program that asks `fstat` for the size
always stays inside. -/
theorem mappedStores_inside_iff (accepts : Nat → Nat) (pageSize : PageSize)
    (environment : Environment Call Answer) (sizeMb : UInt64) :
    (Inside accepts pageSize (run environment [] (demoFileMappedMemory sizeMb)).log ↔
      (mapAnswer environment sizeMb ≠ none →
        (sizeBytes sizeMb).toNat <
          roundUp (filled accepts sizeMb).stream.length pageSize.bytes.toNat + 4096)) ∧
      Inside accepts pageSize
        (run (reporting accepts pageSize environment) [] fileMappingDirtyDemo).log :=
  ⟨demoFileMappedMemory_inside_iff accepts pageSize environment sizeMb,
    fileMappingDirtyDemo_inside accepts pageSize environment⟩

/-- On a full disk the file stays empty, and the demo maps 50 MB of it all the same. -/
theorem fullDisk_store_faults :
    (mapAnswer granting 50).isSome ∧ (filled (fun _ => 0) 50).stream.length = 0 ∧
      ¬ Inside (fun _ => 0) page4096 (run granting [] (demoFileMappedMemory 50)).log := by
  have mapped : (mapAnswer granting 50).isSome := rfl
  have empty : (filled (fun _ => 0) 50).stream.length = 0 := writes_none_length 0 _ .fresh
  refine ⟨mapped, empty, ?_⟩
  rw [demoFileMappedMemory_inside_iff]
  intro reached
  have fits := reached (Option.isSome_iff_ne_none.mp mapped)
  rw [empty] at fits
  exact absurd fits (by decide)

end MemoryDemo.Darwin.MappedStores
