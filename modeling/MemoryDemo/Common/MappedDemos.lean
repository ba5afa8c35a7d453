import MemoryDemo.Darwin.MappedStores
import MemoryDemo.Library.MappedFile

/-! The loops with which the demos of both platforms write to a file that they have mapped:
what the process sees behind the loop, what the file holds, and which pages have become memory
of the process alone. -/

namespace MemoryDemo.Common.MappedDemos
open Library.MappedFile Library.Stride System.Statistics
open Darwin.FootprintDemos (sizeBytes)
open Darwin.MappedStores (TempFile roundUp sizeBytes_strides storesInside_iff
  storesInside_strides_iff demoFileMappedMemory_inside_iff filled mapAnswer Inside)
open Darwin.Calls (Call Answer)
open Library.CallTree (Environment run)

/-- A fresh mapping of a file, after `for (size_t i = 0; i < size; i += 4096) buffer[i] = byte;`
has gone over it; `none` is a fault. -/
def mapAndWrite (sharing : Sharing) (byte : Char) (pageSize : PageSize) (file : List Char)
    (size : UInt64) : Option (Mapping Char) := do
  let seen ← offsets size 4096
  storeAll pageSize.bytes.toNat '\x00' sharing byte (.fresh file) seen

/-- `demo_private_file_mapping` of `macos/process/activity_monitor_demo.mm`. -/
def demoPrivateFileMapping (sizeMb : UInt64) (pageSize : PageSize) (file : List Char) :
    Option (Mapping Char) :=
  mapAndWrite .copied 'M' pageSize file (sizeBytes sizeMb)

/-- `demo_shared_file_mapping` of the same file, where the child goes over the mapping that it
shares with its parent. -/
def demoSharedFileMapping (sizeMb : UInt64) (pageSize : PageSize) (file : List Char) :
    Option (Mapping Char) :=
  mapAndWrite .shared 'C' pageSize file (sizeBytes sizeMb)

/-- `demo_file_mapped_memory` of `macos/process/xnu_footprint_demo.cpp`. -/
def demoFileMappedMemory (sizeMb : UInt64) (pageSize : PageSize) (file : List Char) :
    Option (Mapping Char) :=
  mapAndWrite .shared 'B' pageSize file (sizeBytes sizeMb)

/-- `main` of `macos/process/file_mapping_dirty_demo.cpp`, which takes the size of the file. -/
def fileMappingDirtyDemo (pageSize : PageSize) (file : List Char) : Option (Mapping Char) :=
  mapAndWrite .shared 'B' pageSize file (UInt64.ofNat file.length)

/-- The view is mapped with `FILE_MAP_COPY`. -/
def demoFileMappedPrivate (sizeMb : UInt64) (pageSize : PageSize) (file : List Char) :
    Option (Mapping Char) :=
  mapAndWrite .copied 'P' pageSize file (sizeBytes sizeMb)

/-- The view is mapped with `FILE_MAP_ALL_ACCESS`. -/
def demoFileMappedShared (sizeMb : UInt64) (pageSize : PageSize) (file : List Char) :
    Option (Mapping Char) :=
  mapAndWrite .shared 'S' pageSize file (sizeBytes sizeMb)

inductive Demo where
  | privateFileMapping (sizeMb : UInt64)
  | sharedFileMapping (sizeMb : UInt64)
  | fileMappedMemory (sizeMb : UInt64)
  | fileMappingDirty
  | fileMappedPrivate (sizeMb : UInt64)
  | fileMappedShared (sizeMb : UInt64)
  deriving DecidableEq, Repr

def Demo.run : Demo → PageSize → List Char → Option (Mapping Char)
  | .privateFileMapping sizeMb => demoPrivateFileMapping sizeMb
  | .sharedFileMapping sizeMb => demoSharedFileMapping sizeMb
  | .fileMappedMemory sizeMb => demoFileMappedMemory sizeMb
  | .fileMappingDirty => fileMappingDirtyDemo
  | .fileMappedPrivate sizeMb => demoFileMappedPrivate sizeMb
  | .fileMappedShared sizeMb => demoFileMappedShared sizeMb

def Demo.sharing : Demo → Sharing
  | .privateFileMapping _ | .fileMappedPrivate _ => .copied
  | .sharedFileMapping _ | .fileMappedMemory _ | .fileMappingDirty | .fileMappedShared _ => .shared

def Demo.byte : Demo → Char
  | .privateFileMapping _ => 'M'
  | .sharedFileMapping _ => 'C'
  | .fileMappedPrivate _ => 'P'
  | .fileMappedShared _ => 'S'
  | .fileMappedMemory _ | .fileMappingDirty => 'B'

/-- The size of the mapping. -/
def Demo.size (file : List Char) : Demo → UInt64
  | .privateFileMapping sizeMb | .sharedFileMapping sizeMb => sizeBytes sizeMb
  | .fileMappedMemory sizeMb => sizeBytes sizeMb
  | .fileMappedPrivate sizeMb | .fileMappedShared sizeMb => sizeBytes sizeMb
  | .fileMappingDirty => UInt64.ofNat file.length

theorem Demo.run_eq (demo : Demo) (pageSize : PageSize) (file : List Char) :
    demo.run pageSize file =
      mapAndWrite demo.sharing demo.byte pageSize file (demo.size file) := by
  cases demo <;> rfl

theorem Demo.size_bounded (demo : Demo) {file : List Char} (fits : file.length < 2 ^ 63) :
    (demo.size file).toNat + 4096 ≤ 2 ^ 64 := by
  cases demo with
  | fileMappingDirty =>
    have exact : (UInt64.ofNat file.length).toNat = file.length :=
      UInt64.toNat_ofNat_of_lt' (by rw [UInt64.size]; omega)
    change (UInt64.ofNat file.length).toNat + 4096 ≤ 2 ^ 64
    omega
  | _ sizeMb => exact (sizeBytes_strides sizeMb).1

/-- The bytes that the loop leaves to look at. -/
def overwritten (byte : Char) (size : UInt64) (file : List Char) : List Char :=
  file.mapIdx fun index old => if index < size.toNat ∧ 4096 ∣ index then byte else old

section
variable (pageSize : PageSize) (file : List Char) {size : UInt64}

/-- A page is written to if and only if it starts below the size. -/
theorem hit_iff (grid : 4096 ∣ pageSize.bytes.toNat) {seen : List Nat}
    (member : ∀ index, index ∈ seen ↔ index < size.toNat ∧ 4096 ∣ index) (page : Nat) :
    (∃ index ∈ seen, index / pageSize.bytes.toNat = page) ↔
      page * pageSize.bytes.toNat < size.toNat := by
  have positive := pageSize.positive
  constructor
  · rintro ⟨index, among, rfl⟩
    exact Nat.lt_of_le_of_lt (Nat.div_mul_le_self _ _) ((member index).mp among).1
  · intro below
    exact ⟨page * pageSize.bytes.toNat, (member _).mpr ⟨below, grid.mul_left page⟩,
      Nat.mul_div_cancel page positive⟩

/-- The loop as a walk over the multiples of 4096 below the size. -/
theorem mapAndWrite_eq (sharing : Sharing) (byte : Char) (bounded : size.toNat + 4096 ≤ 2 ^ 64) :
    ∃ seen, (∀ index, index ∈ seen ↔ index < size.toNat ∧ 4096 ∣ index) ∧
      mapAndWrite sharing byte pageSize file size =
        storeAll pageSize.bytes.toNat '\x00' sharing byte (.fresh file) seen := by
  obtain ⟨seen, walked, member⟩ := offsets_of_bounded (show 0 < (4096 : UInt64).toNat by decide)
    (show size.toNat + (4096 : UInt64).toNat ≤ 2 ^ 64 from bounded)
  exact ⟨seen, member, by rw [mapAndWrite, walked]; rfl⟩

/-- Without a fault exactly if every page of the mapping has a part of the file. -/
theorem mapAndWrite_iff (grid : 4096 ∣ pageSize.bytes.toNat) (sharing : Sharing) (byte : Char)
    (bounded : size.toNat + 4096 ≤ 2 ^ 64) :
    (∃ after, mapAndWrite sharing byte pageSize file size = some after) ↔
      ∀ page, page * pageSize.bytes.toNat < size.toNat →
        page * pageSize.bytes.toNat < file.length := by
  obtain ⟨seen, member, same⟩ := mapAndWrite_eq pageSize file sharing byte bounded
  rw [same, storeAll_iff]
  constructor
  · intro backed page below
    obtain ⟨index, among, here⟩ := (hit_iff pageSize grid member page).mpr below
    have inside := backed index among
    rwa [Backed, here] at inside
  · intro covered index among
    exact covered _ ((hit_iff pageSize grid member _).mp ⟨index, among, rfl⟩)

/-- A byte is backed exactly if it lies below the end of the last page of the file. -/
theorem backed_iff (index : Nat) :
    Backed pageSize.bytes.toNat file index ↔
      index < roundUp file.length pageSize.bytes.toNat := by
  have positive := pageSize.positive
  rw [Backed, roundUp, ← Nat.div_lt_iff_lt_mul positive, Nat.lt_iff_add_one_le (m := index / _),
    Nat.le_div_iff_mul_le positive, Nat.add_one_mul]
  omega

/-- The loop ends without a fault exactly where the access that stands for it in the programs of
calls has none. -/
theorem mapAndWrite_isSome_iff (sharing : Sharing) (byte : Char)
    (bounded : size.toNat + 4096 ≤ 2 ^ 64) {written : TempFile}
    (same : written.stream.length = file.length) :
    (∃ after, mapAndWrite sharing byte pageSize file size = some after) ↔
      written.storesInside pageSize size = true := by
  obtain ⟨seen, member, walked⟩ := mapAndWrite_eq pageSize file sharing byte bounded
  rw [walked, storeAll_iff, storesInside_iff pageSize written bounded, same]
  constructor
  · intro backed offset below multiple
    rw [UInt64.lt_iff_toNat_lt] at below
    exact (backed_iff pageSize file _).mp (backed _ ((member _).mpr ⟨below, multiple⟩))
  · intro inside index among
    obtain ⟨below, multiple⟩ := (member index).mp among
    have exact : (UInt64.ofNat index).toNat = index :=
      UInt64.toNat_ofNat_of_lt' (by rw [UInt64.size]; omega)
    have here := inside (UInt64.ofNat index) (by rwa [UInt64.lt_iff_toNat_lt, exact])
    rw [exact] at here
    exact (backed_iff pageSize file index).mpr (here multiple)

/-- Either way the process sees its byte at each multiple of the stride, and the file's own bytes
elsewhere. -/
theorem mapAndWrite_sees {sharing : Sharing} {byte : Char} (bounded : size.toNat + 4096 ≤ 2 ^ 64)
    {after : Mapping Char} (ran : mapAndWrite sharing byte pageSize file size = some after)
    (index : Nat) :
    load pageSize.bytes.toNat '\x00' after index =
      if index < size.toNat ∧ 4096 ∣ index then byte else file.getD index '\x00' := by
  obtain ⟨seen, member, same⟩ := mapAndWrite_eq pageSize file sharing byte bounded
  rw [same] at ran
  have array : load pageSize.bytes.toNat '\x00' after index =
      if index ∈ seen then byte
      else load pageSize.bytes.toNat '\x00' (.fresh file) index := by
    cases sharing with
    | shared => exact (shared_storeAll rfl ran).2.2 index
    | copied => exact (copied_storeAll ran).2.1 index
  rw [array, load_uncopied rfl]
  simp only [member, Mapping.fresh, Option.getD_none]

theorem copied_mapAndWrite (grid : 4096 ∣ pageSize.bytes.toNat) {byte : Char}
    (bounded : size.toNat + 4096 ≤ 2 ^ 64) {after : Mapping Char}
    (ran : mapAndWrite .copied byte pageSize file size = some after) :
    after.file = file ∧
      ∀ page, page ∈ copiedPages after ↔ page * pageSize.bytes.toNat < size.toNat := by
  obtain ⟨seen, member, same⟩ := mapAndWrite_eq pageSize file .copied byte bounded
  rw [same] at ran
  obtain ⟨kept, -, pages⟩ := copied_storeAll ran
  refine ⟨kept, fun page => ?_⟩
  rw [pages, hit_iff pageSize grid member]
  exact or_iff_right nofun

theorem shared_mapAndWrite {byte : Char} (bounded : size.toNat + 4096 ≤ 2 ^ 64)
    {after : Mapping Char} (ran : mapAndWrite .shared byte pageSize file size = some after) :
    after.file = overwritten byte size file ∧ copiedPages after = ∅ := by
  obtain ⟨seen, member, same⟩ := mapAndWrite_eq pageSize file .shared byte bounded
  rw [same] at ran
  obtain ⟨written, copies, -⟩ := shared_storeAll rfl ran
  refine ⟨written.trans (stamped_eq_mapIdx fun index _ => member index), ?_⟩
  apply Set.eq_empty_of_forall_notMem
  intro page member
  rw [mem_copiedPages, copies] at member
  cases member

end

/-- A run of `demo_file_mapped_memory` as a program of calls has no fault exactly if the loop ends
that goes over the file as `create_temp_file` has left it, wherever the demo gets to the loop. -/
theorem fileMappedMemory_grains (accepts : Nat → Nat) (pageSize : PageSize)
    (environment : Environment Call Answer) (sizeMb : UInt64) {file : List Char}
    (same : (filled accepts sizeMb).stream.length = file.length) :
    Inside accepts pageSize
        (run environment [] (Darwin.FootprintDemos.demoFileMappedMemory sizeMb)).log ↔
      (mapAnswer environment sizeMb ≠ none →
        ∃ after, demoFileMappedMemory sizeMb pageSize file = some after) := by
  obtain ⟨bounded, strides⟩ := sizeBytes_strides sizeMb
  rw [demoFileMappedMemory_inside_iff, demoFileMappedMemory,
    mapAndWrite_isSome_iff pageSize file .shared 'B' bounded same,
    storesInside_strides_iff pageSize _ bounded strides]

/-- The index leads to a page of the mapping, whose last page may reach beyond the size. -/
def Demo.Maps (demo : Demo) (pageSize : PageSize) (file : List Char) (index : Nat) : Prop :=
  index / pageSize.bytes.toNat * pageSize.bytes.toNat < (demo.size file).toNat

theorem Demo.maps_of_lt {demo : Demo} {pageSize : PageSize} {file : List Char} {index : Nat}
    (below : index < (demo.size file).toNat) : demo.Maps pageSize file index :=
  Nat.lt_of_le_of_lt (Nat.div_mul_le_self _ _) below

/-- What a demo leaves behind its loop: all pages of the mapping are there, and the process sees
its own bytes in the file either way. A private mapping leaves the file as it was and has copied
each of its pages; a shared one has written to the file and copied none. -/
structure Leaves (demo : Demo) (pageSize : PageSize) (file : List Char) (after : Mapping Char) :
    Prop where
  backed : ∀ index, demo.Maps pageSize file index → Backed pageSize.bytes.toNat file index
  sees : ∀ index, demo.Maps pageSize file index →
    load pageSize.bytes.toNat '\x00' after index =
      if index < (demo.size file).toNat ∧ 4096 ∣ index then demo.byte else file.getD index '\x00'
  privately : demo.sharing = .copied → after.file = file ∧
    ∀ page, page ∈ copiedPages after ↔ page * pageSize.bytes.toNat < (demo.size file).toNat
  shared : demo.sharing = .shared →
    after.file = overwritten demo.byte (demo.size file) file ∧ copiedPages after = ∅

/-- For every demo, file and page size that the stride divides. -/
theorem demo_leaves (demo : Demo) (pageSize : PageSize) (grid : 4096 ∣ pageSize.bytes.toNat)
    (file : List Char) (fits : file.length < 2 ^ 63) :
    ((∃ after, demo.run pageSize file = some after) ↔
      ∀ page, page * pageSize.bytes.toNat < (demo.size file).toNat →
        page * pageSize.bytes.toNat < file.length) ∧
      ∀ after, demo.run pageSize file = some after → Leaves demo pageSize file after := by
  have bounded := demo.size_bounded fits
  have runs := mapAndWrite_iff pageSize file grid demo.sharing demo.byte bounded
  rw [demo.run_eq]
  refine ⟨runs, fun after ran => ?_⟩
  exact
    { backed := fun _ maps => runs.mp ⟨after, ran⟩ _ maps
      sees := fun index _ => mapAndWrite_sees pageSize file bounded ran index
      privately := by
        intro sharing
        rw [sharing] at ran
        exact copied_mapAndWrite pageSize file grid bounded ran
      shared := by
        intro sharing
        rw [sharing] at ran
        exact shared_mapAndWrite pageSize file bounded ran }

/-- The page size of a Mac with Apple silicon. -/
def page16384 : PageSize :=
  ⟨16384, by decide, by decide⟩

/-- A private mapping of a megabyte, which has copied all of its 256 pages; and a shared one of a
file that ends in its last page of 16 KB, with a store behind the end of the file. -/
theorem demo_leaves_megabyte :
    (∃ after, Demo.run (.privateFileMapping 1) page4096 (List.replicate 1048576 'P') = some after ∧
      after.file = List.replicate 1048576 'P' ∧ (∀ page, page ∈ copiedPages after ↔ page < 256) ∧
      load 4096 '\x00' after 8192 = 'M' ∧ load 4096 '\x00' after 8193 = 'P') ∧
    ∃ after, Demo.run (.fileMappedMemory 1) page16384 (List.replicate 1032200 'F') = some after ∧
      load 16384 '\x00' after 1036288 = 'B' ∧ after.file.length = 1032200 := by
  have size : (sizeBytes 1).toNat = 1048576 := by decide
  have small : 4096 ∣ page4096.bytes.toNat := by decide
  have large : 4096 ∣ page16384.bytes.toNat := by decide
  constructor
  · obtain ⟨runs, leaves⟩ := demo_leaves (.privateFileMapping 1) page4096 small
      (List.replicate 1048576 'P') (by rw [List.length_replicate]; decide)
    obtain ⟨after, ran⟩ := runs.mpr fun page below => by
      rw [List.length_replicate]
      exact lt_of_lt_of_eq below size
    obtain ⟨-, sees, privately, -⟩ := leaves after ran
    obtain ⟨kept, pages⟩ := privately rfl
    change ∀ page, page ∈ _ ↔ page * 4096 < (sizeBytes 1).toNat at pages
    rw [size] at pages
    refine ⟨after, ran, kept, fun page => ?_, ?_, ?_⟩
    · rw [pages]
      omega
    · rw [show (4096 : Nat) = page4096.bytes.toNat from rfl, sees 8192 (Demo.maps_of_lt (by decide))]
      exact if_pos (by decide)
    · rw [show (4096 : Nat) = page4096.bytes.toNat from rfl, sees 8193 (Demo.maps_of_lt (by decide)),
        if_neg (by decide), List.getD_eq_getElem?_getD, List.getElem?_replicate, if_pos (by decide)]
      rfl
  · obtain ⟨runs, leaves⟩ := demo_leaves (.fileMappedMemory 1) page16384 large
      (List.replicate 1032200 'F') (by rw [List.length_replicate]; decide)
    obtain ⟨after, ran⟩ := runs.mpr fun page below => by
      change page * 16384 < (sizeBytes 1).toNat at below
      rw [size] at below
      rw [List.length_replicate]
      change page * 16384 < 1032200
      omega
    obtain ⟨-, sees, -, shared⟩ := leaves after ran
    refine ⟨after, ran, ?_, ?_⟩
    · have inside : 1036288 < (sizeBytes 1).toNat := by decide
      rw [show (16384 : Nat) = page16384.bytes.toNat from rfl, sees 1036288 (Demo.maps_of_lt inside)]
      exact if_pos (by decide)
    · rw [(shared rfl).1, overwritten, List.length_mapIdx, List.length_replicate]

end MemoryDemo.Common.MappedDemos
