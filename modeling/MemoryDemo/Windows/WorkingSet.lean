import Mathlib.Data.Finset.Image
import Mathlib.Order.Interval.Finset.Nat
import MemoryDemo.Library.Accumulator
import MemoryDemo.Windows.ProcessMonitor

/-! The working set that `printProcessMemoryInfo` reads twice: whether the buffer has room
for the second reading, and whether the printed figures fit together. -/

namespace MemoryDemo.Windows.WorkingSet
open Library.Accumulator ProcessMonitor

/-- The pages of 4096 bytes that a `memset` of the buffer touches. -/
def touchedPages (base size : Nat) : Finset Nat :=
  (Finset.Ico base (base + size)).image (· / 4096)

theorem touchedPages_eq (base size : Nat) (positive : 0 < size) :
    touchedPages base size = Finset.Icc (base / 4096) ((base + size - 1) / 4096) := by
  ext page
  simp only [touchedPages, Finset.mem_image, Finset.mem_Ico, Finset.mem_Icc]
  constructor
  · rintro ⟨byte, inside, rfl⟩
    omega
  · intro bounds
    by_cases first : page = base / 4096
    · exact ⟨base, by omega, first.symm⟩
    · exact ⟨page * 4096, by omega, by omega⟩

theorem touchedPages_card (base size : Nat) (positive : 0 < size) :
    (touchedPages base size).card = (base % 4096 + size - 1) / 4096 + 1 := by
  rw [touchedPages_eq base size positive, Nat.card_Icc]
  omega

/-- The byte count is exact before it is cut to 32 bits. -/
theorem dwWorkingSetInfoSize_toNat (counters : MemoryCounters) :
    (dwWorkingSetInfoSize counters).toNat =
      (816 + 8 * (counters.workingSetSize.toNat / 4096)) % 2 ^ 32 := by
  have bound := counters.workingSetSize.toNat_lt
  simp only [dwWorkingSetInfoSize, informationSize, blockSize, UInt64.toNat_toUInt32,
    UInt64.toNat_add, UInt64.toNat_mul, UInt64.toNat_div, UInt64.toNat_ofNat, Nat.reducePow,
    Nat.reduceMod]
  omega

/-- A process that does nothing but run the function: the working set grows between the
two readings by the pages of the buffer alone, none of which was resident before. -/
structure Quiet (env : Win32) (counters : MemoryCounters) (base : UInt64) : Prop where
  read : env.getProcessMemoryInfo = .ok counters
  whole : counters.workingSetSize.toNat % 4096 = 0
  first : ∃ blocks, env.firstSet = .entries blocks ∧
    blocks.length = counters.workingSetSize.toNat / 4096
  allocated : env.malloc (dwWorkingSetInfoSize counters).toUInt64 = some base
  second : ∃ blocks, env.secondSet = .entries blocks ∧
    blocks.length = counters.workingSetSize.toNat / 4096 +
      (touchedPages base.toNat (dwWorkingSetInfoSize counters).toNat).card

def Outcome.Reports (outcome : Outcome) : Prop :=
  ∃ metrics, outcome = .detailed metrics ∨ outcome = .estimated metrics

/-- The second query finds room if and only if the hundred spare entries pay for the
pages of the buffer itself. -/
theorem room_iff (counters : MemoryCounters) (base : UInt64) :
    8 + 8 * (counters.workingSetSize.toNat / 4096 +
        (touchedPages base.toNat (dwWorkingSetInfoSize counters).toNat).card) ≤
      (dwWorkingSetInfoSize counters).toNat ↔
    8 * (counters.workingSetSize.toNat / 4096) + base.toNat % 4096 ≤ 412880 := by
  have size := dwWorkingSetInfoSize_toNat counters
  by_cases small : 816 + 8 * (counters.workingSetSize.toNat / 4096) < 2 ^ 32
  · rw [Nat.mod_eq_of_lt small] at size
    rw [size, touchedPages_card _ _ (by omega)]
    omega
  · omega

/-- `printProcessMemoryInfo` can report if and only if eight bytes for each resident page,
with the offset of the buffer in its first page, stay within 412880: about 201 MB. -/
theorem printProcessMemoryInfo_reports_iff (env : Win32) (counters : MemoryCounters)
    (base : UInt64) (quiet : Quiet env counters base) :
    Outcome.Reports (printProcessMemoryInfo env) ↔
      8 * (counters.workingSetSize.toNat / 4096) + base.toNat % 4096 ≤ 412880 := by
  obtain ⟨blocks, listed, count⟩ := quiet.first
  obtain ⟨later, relisted, recount⟩ := quiet.second
  have room := room_iff counters base
  by_cases short : blocks.length ≤ 1
  · have fits : queryWorkingSet env.firstSet informationSize.toUInt32 = .ok blocks := by
      rw [listed]
      exact if_neg (by simp only [informationSize]; change ¬16 < _; omega)
    have run : printProcessMemoryInfo env = .estimated (estimatedMetrics counters) := by
      simp only [printProcessMemoryInfo, quiet.read, fits]
    rw [run]
    exact ⟨fun _ => by omega, fun _ => ⟨_, Or.inr rfl⟩⟩
  · have tooLong : queryWorkingSet env.firstSet informationSize.toUInt32 =
        .error ERROR_BAD_LENGTH := by
      rw [listed]
      exact if_pos (by simp only [informationSize]; change 16 < _; omega)
    have run : printProcessMemoryInfo env = queryDetails env counters := by
      simp only [printProcessMemoryInfo, quiet.read, tooLong, ne_eq, not_true_eq_false, ↓reduceIte]
    rw [run, ← room, ← recount]
    simp only [queryDetails, quiet.allocated, relisted, queryWorkingSet]
    by_cases full : (dwWorkingSetInfoSize counters).toNat < 8 + 8 * later.length
    · simp only [if_pos full]
      constructor
      · rintro ⟨metrics, detailed | estimated⟩
        · cases detailed
        · cases estimated
      · intro fits
        omega
    · simp only [if_neg full]
      exact ⟨fun _ => Nat.not_lt.mp full, fun _ => ⟨_, Or.inl rfl⟩⟩

/-! Two processes that do nothing else: one of three pages, one of 60000 pages (234 MB),
whose details take a buffer of 118 pages. -/

def quietRun (workingSetSize : UInt64) (pages bufferPages : Nat) : Win32 where
  getProcessMemoryInfo := .ok ⟨workingSetSize, 0, 0⟩
  firstSet := .entries (List.replicate pages ⟨false, 0⟩)
  malloc := fun _ => some 0x10000
  secondSet := .entries (List.replicate (pages + bufferPages) ⟨false, 0⟩)

theorem quietRun_quiet (workingSetSize : UInt64) (pages bufferPages size : Nat)
    (whole : workingSetSize.toNat = pages * 4096)
    (sized : (dwWorkingSetInfoSize ⟨workingSetSize, 0, 0⟩).toNat = size) (positive : 0 < size)
    (spanned : (size - 1) / 4096 + 1 = bufferPages) :
    Quiet (quietRun workingSetSize pages bufferPages) ⟨workingSetSize, 0, 0⟩ 0x10000 where
  read := rfl
  whole := by simp only [whole, Nat.mul_mod_left]
  first := ⟨_, rfl, by simp only [whole, List.length_replicate]; omega⟩
  allocated := rfl
  second := by
    refine ⟨_, rfl, ?_⟩
    rw [sized, touchedPages_card _ _ positive, List.length_replicate, whole, ← spanned]
    have aligned : (0x10000 : UInt64).toNat % 4096 = 0 := rfl
    rw [aligned]
    omega

theorem quietRun_reports_three :
    Outcome.Reports (printProcessMemoryInfo (quietRun 12288 3 1)) ↔
      8 * ((12288 : UInt64).toNat / 4096) + (0x10000 : UInt64).toNat % 4096 ≤ 412880 :=
  printProcessMemoryInfo_reports_iff (quietRun 12288 3 1) ⟨12288, 0, 0⟩ 0x10000
    (quietRun_quiet 12288 3 1 840 rfl rfl (by decide) rfl)

theorem quietRun_details_fail (workingSetSize : UInt64) (pages bufferPages size : Nat)
    (sized : (dwWorkingSetInfoSize ⟨workingSetSize, 0, 0⟩).toNat = size) (several : 1 < pages)
    (short : size < 8 + 8 * (pages + bufferPages)) :
    printProcessMemoryInfo (quietRun workingSetSize pages bufferPages) =
      .detailsFailed ERROR_BAD_LENGTH := by
  have unit : informationSize.toUInt32.toNat = 16 := rfl
  have first : 16 < 8 + 8 * pages := by omega
  simp only [printProcessMemoryInfo, quietRun, queryWorkingSet, queryDetails, List.length_replicate,
    sized, unit, if_pos first, if_pos short, ne_eq, not_true_eq_false, ↓reduceIte]

theorem quietRun_bad_length :
    Quiet (quietRun 245760000 60000 118) ⟨245760000, 0, 0⟩ 0x10000 ∧
      printProcessMemoryInfo (quietRun 245760000 60000 118) = .detailsFailed ERROR_BAD_LENGTH :=
  ⟨quietRun_quiet 245760000 60000 118 480816 rfl rfl (by decide) rfl,
    quietRun_details_fail 245760000 60000 118 480816 rfl (by decide) (by decide)⟩

/-- The loop counts every entry once, on one of its two counters. -/
theorem countPages_toNat (blocks : List Block) (fits : blocks.length < 2 ^ 64) :
    (countPages blocks).sharedPages.toNat = blocks.countP Block.shared ∧
      (countPages blocks).privatePages.toNat = blocks.countP (fun block => !block.shared) := by
  have shared := foldl_count countPage PageCounts.sharedPages Block.shared
    (by intro counts block; cases on : block.shared <;> simp [countPage, on]) blocks ⟨0, 0⟩
    (by simpa only [UInt64.toNat_zero, Nat.zero_add] using fits)
  have isPrivate := foldl_count countPage PageCounts.privatePages (fun block => !block.shared)
    (by intro counts block; cases on : block.shared <;> simp [countPage, on]) blocks ⟨0, 0⟩
    (by simpa only [UInt64.toNat_zero, Nat.zero_add] using fits)
  simp only [UInt64.toNat_zero, Nat.zero_add] at shared isPrivate
  exact ⟨shared, isPrivate⟩

theorem pages_toNat (pages : UInt64) (few : pages.toNat < 2 ^ 52) :
    (pages * 4096).toNat = pages.toNat * 4096 := by
  rw [UInt64.toNat_mul]
  exact Nat.mod_eq_of_lt (by simp only [UInt64.toNat_ofNat, Nat.reducePow, Nat.reduceMod]; omega)

/-- The printed figures form one picture: private and shareable make up the total, and
what is shared is shareable. -/
def Consistent (metrics : Metrics) : Prop :=
  metrics.privateWorkingSet.toNat + metrics.shareableWorkingSet.toNat =
      metrics.totalWorkingSet.toNat ∧
    metrics.sharedWorkingSet ≤ metrics.shareableWorkingSet ∧
    metrics.shareableWorkingSet ≤ metrics.totalWorkingSet

instance (metrics : Metrics) : Decidable (Consistent metrics) :=
  inferInstanceAs (Decidable (_ ∧ _))

theorem detailedMetrics_toNat (counters : MemoryCounters) (blocks : List Block)
    (few : blocks.length < 2 ^ 52) :
    (detailedMetrics counters blocks).privateWorkingSet.toNat =
        blocks.countP (fun block => !block.shared) * 4096 ∧
      (detailedMetrics counters blocks).sharedWorkingSet.toNat =
        blocks.countP Block.shared * 4096 := by
  obtain ⟨shared, isPrivate⟩ := countPages_toNat blocks (by omega)
  have sharedBound := List.countP_le_length (p := Block.shared) (l := blocks)
  have privateBound := List.countP_le_length (p := fun block : Block => !block.shared) (l := blocks)
  simp only [detailedMetrics]
  rw [pages_toNat _ (by omega), pages_toNat _ (by omega), shared, isPrivate]
  exact ⟨rfl, rfl⟩

/-- The detailed figures come from the two answers, and the buffer bounds their number. -/
theorem detailed_of_answers {env : Win32} {counters : MemoryCounters} {blocks : List Block}
    {metrics : Metrics} (read : env.getProcessMemoryInfo = .ok counters)
    (listed : env.secondSet = .entries blocks)
    (run : printProcessMemoryInfo env = .detailed metrics) :
    metrics = detailedMetrics counters blocks ∧ blocks.length < 2 ^ 52 := by
  obtain ⟨counters', blocks', read', listed', room, same⟩ := printProcessMemoryInfo_detailed run
  obtain rfl : counters = counters' := by simpa only [read, Except.ok.injEq] using read'
  obtain rfl : blocks = blocks' := by simpa only [listed, WorkingSet.entries.injEq] using listed'
  have limit := (dwWorkingSetInfoSize counters).toNat_lt
  exact ⟨same, by omega⟩

/-- On the detailed path the figures fit together if and only if the later reading lists
no more pages than the earlier total has room for. -/
theorem printProcessMemoryInfo_consistent_iff (env : Win32) (counters : MemoryCounters)
    (blocks : List Block) (metrics : Metrics) (read : env.getProcessMemoryInfo = .ok counters)
    (listed : env.secondSet = .entries blocks) (run : printProcessMemoryInfo env = .detailed metrics) :
    metrics.totalWorkingSet = counters.workingSetSize ∧
      (Consistent metrics ↔ blocks.length * 4096 ≤ counters.workingSetSize.toNat) := by
  obtain ⟨rfl, few⟩ := detailed_of_answers read listed run
  refine ⟨rfl, ?_⟩
  obtain ⟨privateSize, sharedSize⟩ := detailedMetrics_toNat counters blocks few
  have parts := List.length_eq_countP_add_countP Block.shared (l := blocks)
  have total := counters.workingSetSize.toNat_lt
  have difference : (detailedMetrics counters blocks).shareableWorkingSet.toNat =
      (2 ^ 64 - (detailedMetrics counters blocks).privateWorkingSet.toNat +
        counters.workingSetSize.toNat) % 2 ^ 64 := UInt64.toNat_sub _ _
  have whole : (detailedMetrics counters blocks).totalWorkingSet = counters.workingSetSize := rfl
  simp only [Consistent, UInt64.le_iff_toNat_le, whole, difference, privateSize, sharedSize]
  have same : blocks.countP (fun block => decide ¬block.shared = true) =
      blocks.countP (fun block => !block.shared) := by
    congr 1
    funext block
    cases block.shared <;> rfl
  omega

theorem quietRun_consistent_three :
    (detailedMetrics ⟨12288, 0, 0⟩ (List.replicate 4 ⟨false, 0⟩)).totalWorkingSet = 12288 ∧
      (Consistent (detailedMetrics ⟨12288, 0, 0⟩ (List.replicate 4 ⟨false, 0⟩)) ↔
        (List.replicate 4 (⟨false, 0⟩ : Block)).length * 4096 ≤ (12288 : UInt64).toNat) :=
  printProcessMemoryInfo_consistent_iff (quietRun 12288 3 1) ⟨12288, 0, 0⟩
    (List.replicate 4 ⟨false, 0⟩) _ rfl rfl rfl

/-- The page of the buffer alone makes the private pages outweigh the earlier total. -/
theorem quietRun_inconsistent :
    ∃ metrics, printProcessMemoryInfo (quietRun 12288 3 1) = .detailed metrics ∧
      metrics.privateWorkingSet = 16384 ∧ metrics.totalWorkingSet = 12288 ∧
      ¬Consistent metrics :=
  ⟨_, rfl, by decide, by decide, by decide⟩

/-- The README's definition of already-shared pages: several processes use them. -/
def usedByOthers (block : Block) : Bool :=
  1 < block.shareCount

/-- The shared figure counts the pages that several processes use if and only if every
shareable page is used by several: the loop looks at the `Shared` bit alone. -/
theorem sharedWorkingSet_exact_iff (env : Win32) (counters : MemoryCounters)
    (blocks : List Block) (metrics : Metrics) (read : env.getProcessMemoryInfo = .ok counters)
    (listed : env.secondSet = .entries blocks) (run : printProcessMemoryInfo env = .detailed metrics)
    (alone : ∀ block ∈ blocks, block.shared = false → block.shareCount ≤ 1) :
    metrics.sharedWorkingSet.toNat = 4096 * blocks.countP usedByOthers ↔
      ∀ block ∈ blocks, block.shared = true → 1 < block.shareCount := by
  obtain ⟨rfl, few⟩ := detailed_of_answers read listed run
  obtain ⟨_, sharedSize⟩ := detailedMetrics_toNat counters blocks few
  have narrower : ∀ block ∈ blocks, usedByOthers block = true → block.shared = true := by
    intro block member used
    by_contra clear
    have few := alone block member (by simpa only [Bool.not_eq_true] using clear)
    have many : 1 < block.shareCount := of_decide_eq_true used
    exact absurd few (not_le.mpr many)
  have agree := countP_eq_iff usedByOthers Block.shared blocks narrower
  simp only [usedByOthers, decide_eq_true_eq] at agree
  rw [← agree, sharedSize]
  omega

/-- Three private pages, one page of a library that no other process has loaded, and one
that three processes use. -/
def libraryBlocks : List Block :=
  List.replicate 3 ⟨false, 1⟩ ++ [⟨true, 1⟩, ⟨true, 3⟩]

def libraryRun : Win32 where
  getProcessMemoryInfo := .ok ⟨20480, 0, 0⟩
  firstSet := .entries libraryBlocks
  malloc := fun _ => some 0x10000
  secondSet := .entries libraryBlocks

theorem libraryRun_exact_iff :
    (detailedMetrics ⟨20480, 0, 0⟩ libraryBlocks).sharedWorkingSet.toNat =
        4096 * libraryBlocks.countP usedByOthers ↔
      ∀ block ∈ libraryBlocks, block.shared = true → 1 < block.shareCount :=
  sharedWorkingSet_exact_iff libraryRun ⟨20480, 0, 0⟩ libraryBlocks _ rfl rfl rfl (by decide)

/-- Two pages are reported as shared, and one is. -/
theorem libraryRun_overcounts :
    ∃ metrics, printProcessMemoryInfo libraryRun = .detailed metrics ∧
      (∀ block ∈ libraryBlocks, block.shared = false → block.shareCount ≤ 1) ∧
      metrics.sharedWorkingSet = 2 * 4096 ∧ libraryBlocks.countP usedByOthers = 1 :=
  ⟨_, rfl, by decide, by decide, by decide⟩

end MemoryDemo.Windows.WorkingSet
