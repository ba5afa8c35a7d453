import MemoryDemo.Darwin.ActivityDemos
import MemoryDemo.Darwin.MappedStores
import MemoryDemo.Library.PageGrid
import MemoryDemo.Library.Stride

/-! The loops with which three demos on both platforms write to the pages of a block that
`malloc` or `new` has allocated, and the pages that are resident after such a loop. -/

namespace MemoryDemo.Common.PageLoops
open Library.PageGrid Library.Stride Library.CallTree Darwin.Calls Darwin.FootprintDemos
open Darwin.MappedStores (sizeBytes_strides)

/-- `for (size_t i = 0; i < size; i += 4096) buffer[i] = 'A';`, the addresses that it writes
in their order. Only an index that wraps outlasts the rounds. -/
def writeLoop (buffer size : UInt64) : Option (List UInt64) :=
  (indices size 4096 (size.toNat / 4096 + 2)).map (List.map (buffer + ·))

def demoInternalMemory (buffer sizeBytes : UInt64) : Option (List UInt64) :=
  writeLoop buffer sizeBytes

def demoPrivateMemory (buffer sizeBytes : UInt64) : Option (List UInt64) :=
  writeLoop buffer sizeBytes

def demoPrivateWorkingSet (buffer sizeBytes : UInt64) : Option (List UInt64) :=
  writeLoop buffer sizeBytes

inductive Demo where
  | internalMemory
  | privateMemory
  | privateWorkingSet
  deriving DecidableEq, Repr

def Demo.writes : Demo → UInt64 → UInt64 → Option (List UInt64)
  | .internalMemory => demoInternalMemory
  | .privateMemory => demoPrivateMemory
  | .privateWorkingSet => demoPrivateWorkingSet

/-- The pages that are resident after writes to the given addresses, one after another. -/
def residentAfter (pageSize : Nat) (resident : Finset Nat) (written : List UInt64) : Finset Nat :=
  (written.map UInt64.toNat).foldl (touch pageSize) resident

theorem Demo.writes_eq (demo : Demo) (buffer sizeBytes : UInt64) :
    demo.writes buffer sizeBytes = writeLoop buffer sizeBytes := by
  cases demo with
  | internalMemory => rfl
  | privateMemory => rfl
  | privateWorkingSet => rfl

/-- The two demos for macOS write over all bytes of the block of their `malloc`. -/
theorem mallocDemo_log (sizeMb : UInt64) (environment : Environment Call Answer) (address : Nat)
    (allocated : environment [] (.malloc (sizeBytes sizeMb)) = some address) :
    (run environment [] (mallocDemo sizeMb)).log =
      [⟨.malloc (sizeBytes sizeMb), some address⟩,
        ⟨.access (.block (.address address)) (sizeBytes sizeMb), ()⟩,
        ⟨.free (.address address), ()⟩] := by
  unfold mallocDemo malloc
  rw [Program.bind_assoc, run_ask environment [] _ _ allocated]
  rfl

/-- The loop comes to its end, and writes where a multiple of 4096 below the size leads. -/
theorem writeLoop_spec {buffer size : UInt64} (positive : 0 < size.toNat)
    (whole : 4096 ∣ size.toNat) (fits : buffer.toNat + size.toNat ≤ 2 ^ 64) :
    ∃ written, writeLoop buffer size = some written ∧
      ∀ address, (∃ word ∈ written, word.toNat = address) ↔
        ∃ index, (index < size.toNat ∧ 4096 ∣ index) ∧ buffer.toNat + index = address := by
  have step : (4096 : UInt64).toNat = 4096 := rfl
  have bound := size.toNat_lt
  have bounded : size.toNat + (4096 : UInt64).toNat ≤ 2 ^ 64 := by
    rw [step]
    omega
  have enough : size.toNat / (4096 : UInt64).toNat + 1 < size.toNat / 4096 + 2 := by
    rw [step]
    omega
  obtain ⟨seen, walked, member⟩ := indices_of_bounded (by decide) bounded enough
  refine ⟨seen.map (buffer + ·), by rw [writeLoop, walked]; rfl, fun address => ?_⟩
  have add : ∀ index : UInt64, index < size →
      (buffer + index).toNat = buffer.toNat + index.toNat := by
    intro index below
    rw [UInt64.lt_iff_toNat_lt] at below
    rw [UInt64.toNat_add]
    exact Nat.mod_eq_of_lt (by omega)
  constructor
  · rintro ⟨word, inside, rfl⟩
    obtain ⟨index, among, rfl⟩ := List.mem_map.mp inside
    obtain ⟨below, multiple⟩ := (member index).mp among
    exact ⟨index.toNat, ⟨UInt64.lt_iff_toNat_lt.mp below, multiple⟩, (add index below).symm⟩
  · rintro ⟨index, ⟨below, multiple⟩, rfl⟩
    have exact : (UInt64.ofNat index).toNat = index :=
      UInt64.toNat_ofNat_of_lt' (by rw [UInt64.size]; omega)
    have inside : UInt64.ofNat index < size := by rwa [UInt64.lt_iff_toNat_lt, exact]
    refine ⟨buffer + UInt64.ofNat index, List.mem_map_of_mem ?_, ?_⟩
    · exact (member _).mpr ⟨inside, by rw [exact]; exact multiple⟩
    · rw [add _ inside, exact]

theorem inside_of_spec {buffer size : UInt64} {written : List UInt64}
    (spec : ∀ address, (∃ word ∈ written, word.toNat = address) ↔
      ∃ index, (index < size.toNat ∧ 4096 ∣ index) ∧ buffer.toNat + index = address) :
    ∀ address ∈ written, buffer.toNat ≤ address.toNat ∧
      address.toNat < buffer.toNat + size.toNat := by
  intro address inside
  obtain ⟨index, ⟨below, -⟩, same⟩ := (spec address.toNat).mp ⟨address, inside, rfl⟩
  omega

/-- The block that a run of the demo accesses holds all that the loop writes to. -/
theorem mallocDemo_covers (sizeMb : UInt64) (environment : Environment Call Answer)
    {buffer : UInt64} (allocated : environment [] (.malloc (sizeBytes sizeMb)) = some buffer.toNat)
    (positive : 0 < (sizeBytes sizeMb).toNat)
    (fits : buffer.toNat + (sizeBytes sizeMb).toNat ≤ 2 ^ 64) :
    (run environment [] (mallocDemo sizeMb)).log =
        [⟨.malloc (sizeBytes sizeMb), some buffer.toNat⟩,
          ⟨.access (.block (.address buffer.toNat)) (sizeBytes sizeMb), ()⟩,
          ⟨.free (.address buffer.toNat), ()⟩] ∧
      ∃ written, writeLoop buffer (sizeBytes sizeMb) = some written ∧
        ∀ address ∈ written, buffer.toNat ≤ address.toNat ∧
          address.toNat < buffer.toNat + (sizeBytes sizeMb).toNat := by
  have whole : 4096 ∣ (sizeBytes sizeMb).toNat := (sizeBytes_strides sizeMb).2
  obtain ⟨written, ran, spec⟩ := writeLoop_spec positive whole fits
  exact ⟨mallocDemo_log sizeMb environment buffer.toNat allocated, written, ran,
    inside_of_spec spec⟩

theorem mem_residentAfter (pageSize : Nat) (resident : Finset Nat) (written : List UInt64)
    (page : Nat) :
    page ∈ residentAfter pageSize resident written ↔
      page ∈ resident ∨ ∃ word ∈ written, word.toNat / pageSize = page := by
  simp only [residentAfter, mem_foldl_touch, List.mem_map, exists_exists_and_eq_and]

/-- A page is hit by the loop in the sense of the grid if one of the written addresses lies
on it. -/
theorem hits_of_spec {buffer size : UInt64} {written : List UInt64}
    (spec : ∀ address, (∃ word ∈ written, word.toNat = address) ↔
      ∃ index, (index < size.toNat ∧ 4096 ∣ index) ∧ buffer.toNat + index = address)
    (pageSize page : Nat) :
    (∃ word ∈ written, word.toNat / pageSize = page) ↔
      Hits pageSize buffer.toNat size.toNat 4096 page := by
  constructor
  · rintro ⟨word, inside, rfl⟩
    obtain ⟨index, bounds, same⟩ := (spec word.toNat).mp ⟨word, inside, rfl⟩
    exact ⟨index, bounds, by rw [same]⟩
  · rintro ⟨index, bounds, rfl⟩
    obtain ⟨word, inside, same⟩ := (spec _).mpr ⟨index, bounds, rfl⟩
    exact ⟨word, inside, by rw [same]⟩

/-- All that the loop writes lies in the block. It writes to every page of the block, and
leaves them all resident, exactly if the block ends where a page ends or reaches at least
4096 bytes into its last page. -/
theorem demo_reaches_iff (demo : Demo) {pageSize : Nat} {buffer sizeBytes : UInt64}
    (megabytes : 2 ^ 20 ∣ sizeBytes.toNat) (positive : 0 < sizeBytes.toNat)
    (fits : buffer.toNat + sizeBytes.toNat ≤ 2 ^ 64) (grid : 4096 ∣ pageSize)
    (paged : 0 < pageSize) :
    ∃ written, demo.writes buffer sizeBytes = some written ∧
      (∀ address ∈ written, buffer.toNat ≤ address.toNat ∧
        address.toNat < buffer.toNat + sizeBytes.toNat) ∧
      ((∀ page, Overlaps pageSize buffer.toNat sizeBytes.toNat page →
          ∃ address ∈ written, address.toNat / pageSize = page) ↔
        (buffer.toNat + sizeBytes.toNat) % pageSize = 0 ∨
          4096 ≤ (buffer.toNat + sizeBytes.toNat) % pageSize) ∧
      ((∀ resident page, Overlaps pageSize buffer.toNat sizeBytes.toNat page →
          page ∈ residentAfter pageSize resident written) ↔
        (buffer.toNat + sizeBytes.toNat) % pageSize = 0 ∨
          4096 ≤ (buffer.toNat + sizeBytes.toNat) % pageSize) := by
  have whole : 4096 ∣ sizeBytes.toNat := Nat.dvd_trans (by decide) megabytes
  obtain ⟨written, ran, spec⟩ := writeLoop_spec positive whole fits
  have hits := hits_of_spec spec pageSize
  have covers := covers_iff buffer.toNat (by decide : 0 < 4096) (Nat.le_of_dvd paged grid)
    whole positive
  refine ⟨written, demo.writes_eq buffer sizeBytes ▸ ran, inside_of_spec spec, ?_, ?_⟩
  · simp only [hits]
    exact covers
  · simp only [mem_residentAfter, hits]
    rw [← covers]
    constructor
    · intro all page overlaps
      exact (all ∅ page overlaps).resolve_left (Finset.notMem_empty page)
    · intro all resident page overlaps
      exact Or.inr (all page overlaps)

theorem demo_reaches_iff_aligned :
    2 ^ 20 ∣ (1048576 : UInt64).toNat ∧ 0 < (1048576 : UInt64).toNat ∧
      (8192 : UInt64).toNat + (1048576 : UInt64).toNat ≤ 2 ^ 64 ∧ 4096 ∣ 4096 ∧ 0 < 4096 ∧
      ∃ written, Demo.internalMemory.writes 8192 1048576 = some written ∧
        ∀ page, Overlaps 4096 8192 1048576 page →
          ∃ address ∈ written, address.toNat / 4096 = page := by
  have megabytes : 2 ^ 20 ∣ (1048576 : UInt64).toNat := by decide
  have fits : (8192 : UInt64).toNat + (1048576 : UInt64).toNat ≤ 2 ^ 64 := by decide
  have grid : 4096 ∣ 4096 := by decide
  obtain ⟨written, ran, -, hits, -⟩ :=
    demo_reaches_iff .internalMemory megabytes (by decide) fits grid (by decide)
  exact ⟨megabytes, by decide, fits, grid, by decide, written, ran,
    hits.mpr (Or.inl (by decide))⟩

/-- A block of a megabyte that starts 16 bytes behind the start of a page. -/
theorem privateWorkingSet_misses_page :
    ∃ written, Demo.privateWorkingSet.writes 4112 1048576 = some written ∧
      Overlaps 4096 4112 1048576 257 ∧ (∀ address ∈ written, address.toNat / 4096 ≠ 257) ∧
      257 ∉ residentAfter 4096 ∅ written := by
  have fits : (4112 : UInt64).toNat + (1048576 : UInt64).toNat ≤ 2 ^ 64 := by decide
  obtain ⟨written, ran, spec⟩ := writeLoop_spec (by decide) (by decide) fits
  have missed : ¬ Hits 4096 4112 1048576 4096 257 := by
    rw [hits_iff _ (by decide) (by decide) (by decide) (by decide)]
    decide
  have silent : ¬ ∃ word ∈ written, word.toNat / 4096 = 257 :=
    fun hit => missed ((hits_of_spec spec 4096 257).mp hit)
  refine ⟨written, ran, by unfold Overlaps; decide, ?_, ?_⟩
  · intro address inside same
    exact silent ⟨address, inside, same⟩
  · rw [mem_residentAfter]
    rintro (before | hit)
    · exact absurd before (Finset.notMem_empty 257)
    · exact silent hit

end MemoryDemo.Common.PageLoops
