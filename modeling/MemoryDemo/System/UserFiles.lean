import MemoryDemo.Library.MappedFile
import MemoryDemo.Library.Stride
import MemoryDemo.System.FileCache
import MemoryDemo.System.Options

/-! What a run of the system monitor of `macos/system/activity_monitor_demo.mm` does to the
files on the disk, whatever its options are and however its calls go. Prints, waiting and the
tests of anonymous memory touch no file. -/

namespace MemoryDemo.System.UserFiles
open Library.MappedFile Library.Stride Statistics FileCache Options

/-- The bytes of a file; an offset is a signed 64-bit number. -/
structure File where
  content : List Char
  fits : content.length < 2 ^ 63

abbrev Disk : Type := String → Option File

/-- How the calls of a test of a mapped file go; `tells` is that `tellg` does not return -1. -/
structure Chances where
  opensInput : Bool
  tells : Bool
  opens : Bool
  maps : Bool
  deriving DecidableEq, Repr

/-- What a run meets: the page size, its process id, how the calls of each test go, and what
the file system does with the temporary file. -/
structure World where
  pageSize : PageSize
  pid : Nat
  chances : Act → Chances
  cache : FileSystem

/-- The indices of `for (size_t i = 0; i < size; i += 4096)`. -/
def pageIndices (size : UInt64) : Option (List Nat) :=
  offsets size 4096

/-- The loop that reads the first byte of each page; `none` is a fault. -/
def readPages (pageSize : PageSize) (mapping : Mapping Char) (size : UInt64) :
    Option (Mapping Char) := do
  let offsets ← pageIndices size
  if ∀ offset ∈ offsets, Backed pageSize.bytes.toNat mapping.file offset then some mapping
  else none

/-- The loop that stores a `B` to each page. -/
def writePages (pageSize : PageSize) (mapping : Mapping Char) (size : UInt64) :
    Option (Mapping Char) := do
  let offsets ← pageIndices size
  storeAll pageSize.bytes.toNat '\x00' .shared 'B' mapping offsets

/-- The file with other bytes, which are never more than a file can have. -/
def File.replaced (file : File) (content : List Char) : File :=
  if fits : content.length < 2 ^ 63 then ⟨content, fits⟩ else file

/-- `size_t fileSize = checkFile.tellg()`. -/
def fileSize (chances : Chances) (file : File) : UInt64 :=
  if chances.tells then UInt64.ofNat file.content.length else -1

/-- One of the calls in front of the loop fails. No mapping has a length of zero, or one that
no address space holds. -/
def Refused (chances : Chances) (size : UInt64) : Prop :=
  chances.opensInput = false ∨ chances.opens = false ∨ chances.maps = false ∨ size = 0 ∨
    2 ^ 63 ≤ size.toNat

instance (chances : Chances) (size : UInt64) : Decidable (Refused chances size) :=
  inferInstanceAs (Decidable (_ ∨ _))

/-- The tests of mapped files: a missing path or file ends the test, and so does a call that
fails. -/
def testFileMap (goOver : Mapping Char → UInt64 → Option (Mapping Char)) (chances : Chances)
    (disk : Disk) (filePath : String) : Option Disk :=
  if filePath = "" then some disk
  else
    match disk filePath with
    | none => some disk
    | some file =>
      if Refused chances (fileSize chances file) then some disk
      else
        (goOver (.fresh file.content) (fileSize chances file)).map fun mapping =>
          Function.update disk filePath (some (file.replaced mapping.file))

def testFileMapPrivate (world : World) (disk : Disk) (filePath : String) : Option Disk :=
  testFileMap (readPages world.pageSize) (world.chances (.testFileMapPrivate filePath)) disk
    filePath

def testFileMapSharedNoModify (world : World) (disk : Disk) (filePath : String) : Option Disk :=
  testFileMap (readPages world.pageSize) (world.chances (.testFileMapSharedNoModify filePath))
    disk filePath

def testFileMapSharedModify (world : World) (disk : Disk) (filePath : String) : Option Disk :=
  testFileMap (writePages world.pageSize) (world.chances (.testFileMapSharedModify filePath))
    disk filePath

/-- The name of the temporary file. -/
def cachePath (pid : Nat) : String :=
  "/tmp/memory_cache_test_" ++ toString pid

/-- The temporary file that `IncreaseCachedFiles` has written. -/
def cacheFile (cache : FileSystem) : File where
  content := List.replicate (fill cache testSize).length 'A'
  fits := by
    have bound := (fill_length cache testSize).1
    rw [List.length_replicate]
    exact Nat.lt_of_le_of_lt bound (by decide)

/-- An output stream that opens makes the file anew, and the file goes if it cannot be read. -/
def testFileCache (world : World) (disk : Disk) : Disk :=
  if world.cache.opensOutput = false then disk
  else
    Function.update disk (cachePath world.pid)
      ((increaseCachedFiles world.cache testSize).fileLength.map fun _ => cacheFile world.cache)

/-- What a call of `main` does to the disk; `none` is a fault. -/
def perform (world : World) (disk : Disk) : Act → Option Disk
  | .testFileMapPrivate filePath => testFileMapPrivate world disk filePath
  | .testFileMapSharedNoModify filePath => testFileMapSharedNoModify world disk filePath
  | .testFileMapSharedModify filePath => testFileMapSharedModify world disk filePath
  | .testFileCache => some (testFileCache world disk)
  | .printMemoryMetrics | .showHelp | .monitorMemory => some disk
  | .testPrivateMemory | .testSharedMemory | .testPurgeableMemory => some disk

/-- The disk after a run of `main`. -/
def performAll (world : World) (disk : Disk) (acts : List Act) : Option Disk :=
  acts.foldlM (perform world) disk

/-- What the writing test makes of a file: a `B` at each multiple of 4096. -/
def stamp (content : List Char) : List Char :=
  content.mapIdx fun index byte => if 4096 ∣ index then 'B' else byte

def File.stamp (file : File) : File where
  content := UserFiles.stamp file.content
  fits := by
    rw [UserFiles.stamp, List.length_mapIdx]
    exact file.fits

section
variable (pageSize : PageSize) (file : File)

theorem size_toNat : (UInt64.ofNat file.content.length).toNat = file.content.length :=
  UInt64.toNat_ofNat_of_lt' (by have := file.fits; rw [UInt64.size]; omega)

/-- The indices below the size of the file. -/
theorem fileIndices_spec :
    ∃ offsets, pageIndices (UInt64.ofNat file.content.length) = some offsets ∧
      ∀ index, index ∈ offsets ↔ index < file.content.length ∧ 4096 ∣ index := by
  have fits := file.fits
  have step : (4096 : UInt64).toNat = 4096 := rfl
  have bounded : (UInt64.ofNat file.content.length).toNat + (4096 : UInt64).toNat ≤ 2 ^ 64 := by
    rw [size_toNat, step]
    omega
  have spec := offsets_of_bounded (by decide) bounded
  rwa [size_toNat] at spec

theorem backed_of_lt {index : Nat} (inside : index < file.content.length) :
    Backed pageSize.bytes.toNat file.content index :=
  Nat.lt_of_le_of_lt (Nat.div_mul_le_self _ _) inside

theorem replaced_self : file.replaced file.content = file :=
  dif_pos file.fits

/-- Reading the mapping of a whole file never faults. -/
theorem readPages_whole :
    readPages pageSize (.fresh file.content) (UInt64.ofNat file.content.length) =
      some (.fresh file.content) := by
  obtain ⟨offsets, walked, member⟩ := fileIndices_spec file
  rw [readPages, walked]
  exact if_pos fun offset among => backed_of_lt pageSize file ((member offset).mp among).1

/-- Nor does writing to it, which leaves the stamped file. -/
theorem writePages_whole :
    ∃ mapping, writePages pageSize (.fresh file.content) (UInt64.ofNat file.content.length) =
      some mapping ∧ file.replaced mapping.file = file.stamp := by
  obtain ⟨offsets, walked, member⟩ := fileIndices_spec file
  have backed : ∀ offset ∈ offsets, Backed pageSize.bytes.toNat file.content offset :=
    fun offset among => backed_of_lt pageSize file ((member offset).mp among).1
  obtain ⟨mapping, stored⟩ :=
    (storeAll_iff .shared 'B' (.fresh file.content) offsets).mpr backed
  refine ⟨mapping, by rw [writePages, walked]; exact stored, ?_⟩
  have same : mapping.file = stamp file.content := by
    rw [(shared_storeAll rfl stored).1]
    exact stamped_eq_mapIdx fun index inside =>
      (member index).trans (and_iff_right inside)
  rw [same]
  exact dif_pos file.stamp.fits

end

/-- No call of the test fails. -/
def Chances.Good (chances : Chances) : Prop :=
  chances = ⟨true, true, true, true⟩

instance (chances : Chances) : Decidable chances.Good :=
  inferInstanceAs (Decidable (_ = _))

theorem refused_iff (chances : Chances) (file : File) :
    Refused chances (fileSize chances file) ↔ chances.Good → file.content = [] := by
  obtain ⟨opensInput, tells, opens, maps⟩ := chances
  have fits := file.fits
  have zero : UInt64.ofNat file.content.length = 0 ↔ file.content = [] := by
    rw [← UInt64.toNat_inj, size_toNat, ← List.length_eq_zero_iff]
    rfl
  cases tells with
  | false =>
    have minusOne : 2 ^ 63 ≤ (-1 : UInt64).toNat := by decide
    exact iff_of_true (Or.inr (Or.inr (Or.inr (Or.inr minusOne)))) nofun
  | true =>
    simp only [Refused, fileSize, if_true, zero, size_toNat, Nat.not_le.mpr fits, or_false,
      Chances.Good, Chances.mk.injEq, true_and]
    cases opensInput <;> cases opens <;> cases maps <;> simp

/-- A test that only reads leaves the disk as it is. -/
theorem testFileMap_reads (pageSize : PageSize) (chances : Chances) (disk : Disk)
    (filePath : String) :
    testFileMap (readPages pageSize) chances disk filePath = some disk := by
  unfold testFileMap
  split
  next => rfl
  next named =>
    cases there : disk filePath with
    | none => rfl
    | some file =>
      change (if _ then _ else _) = _
      split
      next refused => rfl
      next goesOn =>
        obtain ⟨good, -⟩ := Classical.not_imp.mp fun implies =>
          goesOn ((refused_iff chances file).mpr implies)
        have size : fileSize chances file = UInt64.ofNat file.content.length := by
          rw [good]
          rfl
        rw [size, readPages_whole, Option.map_some, Mapping.fresh, replaced_self, ← there,
          Function.update_eq_self]

theorem stamp_empty {file : File} (empty : file.content = []) : file.stamp = file := by
  obtain ⟨content, fits⟩ := file
  cases empty
  rfl

/-- The test that writes stamps its file, unless one of its calls fails. -/
theorem testFileMap_writes (pageSize : PageSize) (chances : Chances) (disk : Disk)
    (filePath : String) :
    testFileMap (writePages pageSize) chances disk filePath =
      some (if filePath ≠ "" ∧ chances.Good then
        Function.update disk filePath ((disk filePath).map File.stamp) else disk) := by
  unfold testFileMap
  by_cases named : filePath = ""
  · rw [if_pos named, if_neg fun able => able.1 named]
  rw [if_neg named]
  cases there : disk filePath with
  | none =>
    have same : Function.update disk filePath none = disk := by
      rw [← there, Function.update_eq_self]
    rw [Option.map_none, same, ite_self]
  | some file =>
    change (if _ then _ else _) = _
    by_cases good : chances.Good
    · rw [if_pos (show filePath ≠ "" ∧ chances.Good from ⟨named, good⟩), Option.map_some]
      by_cases empty : file.content = []
      · rw [if_pos ((refused_iff chances file).mpr fun _ => empty), stamp_empty empty, ← there,
          Function.update_eq_self]
      · rw [if_neg fun refused => empty ((refused_iff chances file).mp refused good)]
        have size : fileSize chances file = UInt64.ofNat file.content.length := by
          rw [good]
          rfl
        obtain ⟨mapping, written, replaced⟩ := writePages_whole pageSize file
        rw [size, written, Option.map_some, replaced]
    · rw [if_pos ((refused_iff chances file).mpr fun done => absurd done good),
        if_neg fun able => good able.2]

/-- The test of the file cache touches its temporary file only. -/
theorem testFileCache_other (world : World) (disk : Disk) {path : String}
    (other : path ≠ cachePath world.pid) : testFileCache world disk path = disk path := by
  unfold testFileCache
  split
  next => rfl
  next => exact Function.update_of_ne other _ _

/-- The only call that writes to a file of the user. -/
def Act.isWrite : Act → Bool
  | .testFileMapSharedModify _ => true
  | _ => false

/-- No other call faults, or touches more than the temporary file. -/
theorem perform_quiet (world : World) (disk : Disk) {act : Act} (quiet : Act.isWrite act = false) :
    ∃ after, perform world disk act = some after ∧
      ∀ path, path ≠ cachePath world.pid → after path = disk path := by
  cases act with
  | testFileMapPrivate filePath =>
    exact ⟨disk, testFileMap_reads _ _ _ _, fun _ _ => rfl⟩
  | testFileMapSharedNoModify filePath =>
    exact ⟨disk, testFileMap_reads _ _ _ _, fun _ _ => rfl⟩
  | testFileMapSharedModify filePath => cases quiet
  | testFileCache =>
    exact ⟨_, rfl, fun path other => testFileCache_other world disk other⟩
  | _ => exact ⟨disk, rfl, fun _ _ => rfl⟩

theorem performAll_quiet (world : World) (disk : Disk) {acts : List Act}
    (quiet : ∀ act ∈ acts, Act.isWrite act = false) :
    ∃ after, performAll world disk acts = some after ∧
      ∀ path, path ≠ cachePath world.pid → after path = disk path := by
  induction acts generalizing disk with
  | nil => exact ⟨disk, rfl, fun _ _ => rfl⟩
  | cons act rest ih =>
    obtain ⟨between, performed, same⟩ := perform_quiet world disk (quiet act List.mem_cons_self)
    obtain ⟨after, ran, others⟩ :=
      ih between fun other member => quiet other (List.mem_cons_of_mem _ member)
    refine ⟨after, ?_, fun path other => (others path other).trans (same path other)⟩
    rw [performAll, List.foldlM_cons, performed]
    exact ran

/-- The tests in front of the one that writes. -/
def earlier : List Test :=
  [.privateMemory, .privateMap, .shared, .purgeable, .cache, .fileMap]

theorem selectedRun_acts (delivered : List Delivered) :
    (selectedRun delivered).acts =
      (earlier.filter fun test => Selected delivered test).map (Test.act (lastFile delivered)) ++
        if Selected delivered .fileWrite then [.testFileMapSharedModify (lastFile delivered)]
        else [] := by
  change (List.filter _ (earlier ++ [.fileWrite])).map _ = _
  rw [List.filter_append, List.map_append]
  congr 1
  by_cases chosen : Selected delivered .fileWrite
  · rw [if_pos chosen, List.filter_cons, if_pos (decide_eq_true chosen)]
    rfl
  · rw [if_neg chosen, List.filter_cons, if_neg (by simpa using chosen)]
    rfl

theorem earlier_quiet (filePath : String) {test : Test} (member : test ∈ earlier) :
    Act.isWrite (test.act filePath) = false := by
  cases test with
  | fileWrite => exact absurd member (by decide)
  | _ => rfl

/-- The run gets to the test that writes, with this file, and no call of the test fails. -/
structure Writes (world : World) (argc : Nat) (delivered : List Delivered) (path : String) :
    Prop where
  called : argc ≠ 1
  goes_on : ∀ option ∈ delivered, ¬ option.Ends
  chosen : Selected delivered .fileWrite
  last : path = lastFile delivered
  named : path ≠ ""
  good : (world.chances (.testFileMapSharedModify path)).Good

/-- What a run leaves of a file. -/
def Leaves (after disk : Disk) (path : String) (writes : Prop) : Prop :=
  (writes → after path = (disk path).map File.stamp) ∧ (¬ writes → after path = disk path)

theorem selected_files (world : World) (disk : Disk) {argc : Nat} (called : argc ≠ 1)
    {delivered : List Delivered} (goes_on : ∀ option ∈ delivered, ¬ option.Ends) :
    ∃ after, performAll world disk (selectedRun delivered).acts = some after ∧
      ∀ path, path ≠ cachePath world.pid →
        Leaves after disk path (Writes world argc delivered path) := by
  have quiet : ∀ act ∈ (earlier.filter fun test => Selected delivered test).map
      (Test.act (lastFile delivered)), Act.isWrite act = false := by
    intro act member
    obtain ⟨test, among, rfl⟩ := List.mem_map.mp member
    exact earlier_quiet _ (List.mem_filter.mp among).1
  obtain ⟨between, ran, others⟩ := performAll_quiet world disk quiet
  rw [selectedRun_acts, performAll, List.foldlM_append]
  rw [performAll] at ran
  rw [ran]
  by_cases chosen : Selected delivered .fileWrite
  · rw [if_pos chosen]
    have written := testFileMap_writes world.pageSize
      (world.chances (.testFileMapSharedModify (lastFile delivered))) between (lastFile delivered)
    refine ⟨_, congrArg (Option.bind · some) written, fun path other =>
      ⟨fun writes => ?_, fun quiet => ?_⟩⟩
    · rw [← writes.last, if_pos ⟨writes.named, writes.good⟩, Function.update_self,
        others path other]
    · rw [← others path other]
      split
      next able =>
        by_cases last : path = lastFile delivered
        · rw [← last] at able
          exact absurd ⟨called, goes_on, chosen, last, able.1, able.2⟩ quiet
        · rw [Function.update_of_ne last]
      next => rfl
  · rw [if_neg chosen]
    exact ⟨between, rfl, fun path other =>
      ⟨fun writes => absurd writes.chosen chosen, fun _ => others path other⟩⟩

/-- No run faults, and apart from its temporary file a run leaves every file as it is, but for
the one that `-w` or `-a` has it write to: there a `B` stands at each multiple of 4096. -/
theorem main_files (world : World) (disk : Disk) (argc : Nat) (delivered : List Delivered) :
    ∃ after, performAll world disk (main argc delivered).acts = some after ∧
      ∀ path, path ≠ cachePath world.pid →
        Leaves after disk path (Writes world argc delivered path) := by
  by_cases called : argc = 1
  · have shown : (main argc delivered).acts = [.printMemoryMetrics] := by rw [main, if_pos called]
    rw [shown]
    exact ⟨disk, rfl, fun path other => ⟨fun writes => absurd called writes.called, fun _ => rfl⟩⟩
  by_cases goes_on : ∀ option ∈ delivered, ¬ option.Ends
  · rw [main_goes_on called goes_on]
    exact selected_files world disk called goes_on
  · have ends : ∃ option ∈ delivered, option.Ends := by
      simpa only [not_forall, not_not, exists_prop] using goes_on
    have none := main_ends called ends
    have quiet : ∀ act ∈ (main argc delivered).acts, Act.isWrite act = false := by
      intro act member
      have other := List.filter_eq_nil_iff.mp none act member
      cases act with
      | testFileMapSharedModify filePath => exact absurd rfl other
      | _ => rfl
    obtain ⟨after, ran, others⟩ := performAll_quiet world disk quiet
    exact ⟨after, ran, fun path other =>
      ⟨fun writes => absurd writes.goes_on goes_on, fun _ => others path other⟩⟩

end MemoryDemo.System.UserFiles
