import MemoryDemo.System.Statistics
import Mathlib.Data.Rat.Defs

/-! `GetSystemMemoryPressure` of `macos/system/test.cc`. An amount is kept as the integer
that `ParseGB` is given; the percentage is the exact quotient, before the truncation to
`uint32_t`. -/

namespace MemoryDemo.System.Pressure
open Statistics

inductive Line where
  | heading (text : String)
  | number (label : String) (value : UInt64)
  | gigabytes (label : String) (bytes : Int)
  deriving DecidableEq, Repr

/-- `exit(1)` of a failed sysctl, or the value returned. -/
inductive Outcome where
  | exited (status : Nat)
  | returned (memoryPressure : Rat)
  deriving DecidableEq

def useAndCache (stat : VmStatistics64) (pageSize : PageSize) : Int64 :=
  (pageBytes (stat.activeCount + stat.inactiveCount + stat.speculativeCount + stat.wireCount +
    stat.compressorPageCount) pageSize).toInt64

def cache (stat : VmStatistics64) (pageSize : PageSize) : Int64 :=
  (pageBytes (stat.purgeableCount + stat.externalPageCount) pageSize).toInt64

def used (stat : VmStatistics64) (pageSize : PageSize) : Int64 :=
  useAndCache stat pageSize - cache stat pageSize

/-- The unsigned product in the middle makes the whole sum unsigned. -/
def free (stat : VmStatistics64) (pageSize : PageSize) : Int64 :=
  ((useAndCache stat pageSize).toUInt64 + pageBytes stat.freeCount pageSize -
    (used stat pageSize).toUInt64).toInt64

def pressure (stat : VmStatistics64) (pageSize : PageSize) : Int64 :=
  (pageBytes (stat.wireCount + stat.compressorPageCount) pageSize).toInt64

/-- `free + used`. -/
def denominator (stat : VmStatistics64) (pageSize : PageSize) : Int64 :=
  free stat pageSize + used stat pageSize

/-- `pressure * 1.0 / (free + used) * 100`. -/
def percentage (stat : VmStatistics64) (pageSize : PageSize) : Rat :=
  ((pressure stat pageSize).toInt : Rat) / (denominator stat pageSize).toInt * 100

/-- The total over the page queues. -/
def queueTotal (stat : VmStatistics64) (pageSize : PageSize) : UInt64 :=
  pageBytes (stat.inactiveCount + stat.activeCount + stat.freeCount + stat.compressorPageCount +
    stat.wireCount) pageSize

/-- The total over internal and external pages. -/
def kindTotal (stat : VmStatistics64) (pageSize : PageSize) : UInt64 :=
  pageBytes (stat.internalPageCount + stat.externalPageCount + stat.freeCount +
    stat.compressorPageCount + stat.wireCount) pageSize

def pagesLine (label : String) (pageSize : PageSize) (count : UInt32) : Line :=
  .gigabytes label (pageBytes count pageSize).toNat

def usageLines (stat : VmStatistics64) (pageSize : PageSize) : List Line :=
  let line label count := pagesLine label pageSize count
  [.number "page_size:" pageSize.bytes,
    .heading "------------------------- 已使用 ----------------",
    line "internal_page_count:" stat.internalPageCount,
    line "active_count:" stat.activeCount,
    line "inactive_count:" stat.inactiveCount,
    line "active_count + inactive_count:" (stat.inactiveCount + stat.activeCount),
    line "purgeable_count:" stat.purgeableCount,
    line "App 内存:" (stat.internalPageCount - stat.purgeableCount),
    line "联动内存:" stat.wireCount,
    line "App + 已缓存内存:"
      (stat.internalPageCount + stat.externalPageCount - stat.speculativeCount),
    line "App 内存 + 联动内存+ purgeable_count:"
      (stat.internalPageCount - stat.purgeableCount + stat.wireCount + stat.purgeableCount),
    line "已使用=App +联动内存+被压缩"
      (stat.internalPageCount - stat.purgeableCount + stat.wireCount + stat.compressorPageCount)]

def pressureLines (stat : VmStatistics64) (pageSize : PageSize) : List Line :=
  let line label count := pagesLine label pageSize count
  [.heading "------------------------- 压缩 ----------------",
    .gigabytes "Pages stored in compressor:"
      (stat.totalUncompressedPagesInCompressor * pageSize.bytes).toNat,
    line "被压缩:" stat.compressorPageCount,
    .heading "------------------------- 缓存 ----------------",
    line "external_page_count:" stat.externalPageCount,
    line "已缓存文件" (stat.externalPageCount + stat.purgeableCount),
    .gigabytes "pressure:" (pressure stat pageSize).toInt,
    .gigabytes "free + used:" (denominator stat pageSize).toInt,
    .gigabytes "useAndCache:" (useAndCache stat pageSize).toInt,
    .heading "------------------------- 空闲 ----------------",
    line "free:" stat.freeCount,
    line "speculative_count:" stat.speculativeCount,
    .heading "------------------------- 交换 ----------------",
    .gigabytes "swapouts:" (stat.swapouts * pageSize.bytes).toNat]

def totalLines (stat : VmStatistics64) (pageSize : PageSize) (swapUsed : UInt64) : List Line :=
  [.gigabytes "已使用的交换:" swapUsed.toNat,
    .heading "------------------------- 总内存 ----------------",
    .gigabytes "总内存:" (queueTotal stat pageSize).toNat,
    .gigabytes "总内存:" (kindTotal stat pageSize).toNat]

def getSystemMemoryPressure (host : Host) : List Line × Outcome :=
  match host.hostPageSize, host.hostStatistics64 with
  | some pageSize, some stat =>
    match host.swapUsage with
    | some swapUsed =>
      (usageLines stat pageSize ++ pressureLines stat pageSize ++
        totalLines stat pageSize swapUsed, .returned (percentage stat pageSize))
    | none => (usageLines stat pageSize ++ pressureLines stat pageSize, .exited 1)
  | _, _ => ([], .returned 0)

/-- The amounts printed behind a label. -/
def amounts (label : String) : List Line → List Int
  | [] => []
  | .gigabytes name bytes :: lines =>
    if name = label then bytes :: amounts label lines else amounts label lines
  | .heading _ :: lines => amounts label lines
  | .number _ _ :: lines => amounts label lines

/-- The three totals that a run prints are one amount. -/
def TotalsAgree (lines : List Line) : Prop :=
  ∃ total, amounts "free + used:" lines = [total] ∧ amounts "总内存:" lines = [total, total]

theorem amounts_append (label : String) (first second : List Line) :
    amounts label (first ++ second) = amounts label first ++ amounts label second := by
  induction first with
  | nil => rfl
  | cons line lines ih =>
    cases line with
    | heading text => exact ih
    | number name value => exact ih
    | gigabytes name bytes =>
      simp only [List.cons_append, amounts]
      split
      · rw [ih, List.cons_append]
      · exact ih

theorem usageLines_amounts (stat : VmStatistics64) (pageSize : PageSize) :
    amounts "free + used:" (usageLines stat pageSize) = [] ∧
      amounts "总内存:" (usageLines stat pageSize) = [] := by
  simp [usageLines, pagesLine, amounts]

theorem pressureLines_amounts (stat : VmStatistics64) (pageSize : PageSize) :
    amounts "free + used:" (pressureLines stat pageSize) = [(denominator stat pageSize).toInt] ∧
      amounts "总内存:" (pressureLines stat pageSize) = [] := by
  simp [pressureLines, pagesLine, amounts]

theorem totalLines_amounts (stat : VmStatistics64) (pageSize : PageSize) (swapUsed : UInt64) :
    amounts "free + used:" (totalLines stat pageSize swapUsed) = [] ∧
      amounts "总内存:" (totalLines stat pageSize swapUsed) =
        [((queueTotal stat pageSize).toNat : Int), (kindTotal stat pageSize).toNat] := by
  simp [totalLines, amounts]

/-- The run prints the denominator and both totals, each as it stands. -/
theorem totalsAgree_iff (stat : VmStatistics64) (pageSize : PageSize) (swapUsed : UInt64) :
    TotalsAgree (getSystemMemoryPressure ⟨some pageSize, some stat, some swapUsed⟩).1 ↔
      ((queueTotal stat pageSize).toNat : Int) = (denominator stat pageSize).toInt ∧
        ((kindTotal stat pageSize).toNat : Int) = (denominator stat pageSize).toInt := by
  obtain ⟨usageSum, usageTotal⟩ := usageLines_amounts stat pageSize
  obtain ⟨pressureSum, pressureTotal⟩ := pressureLines_amounts stat pageSize
  obtain ⟨totalSum, totalTotal⟩ := totalLines_amounts stat pageSize swapUsed
  simp only [TotalsAgree, getSystemMemoryPressure, amounts_append, usageSum, usageTotal,
    pressureSum, pressureTotal, totalSum, totalTotal, List.nil_append, List.append_nil,
    List.cons.injEq, and_true]
  constructor
  · rintro ⟨total, rfl, queues, kinds⟩
    exact ⟨queues, kinds⟩
  · rintro ⟨queues, kinds⟩
    exact ⟨_, rfl, queues, kinds⟩

/-- Modulo 2^64 the used bytes cancel. -/
theorem denominator_eq (stat : VmStatistics64) (pageSize : PageSize) :
    denominator stat pageSize =
      useAndCache stat pageSize + (pageBytes stat.freeCount pageSize).toInt64 := by
  simp only [denominator, free, UInt64.toInt64_sub, UInt64.toInt64_add, Int64.toInt64_toUInt64,
    Int64.sub_add_cancel]

/-- The pages that the denominator counts. -/
def denominatorPages (stat : VmStatistics64) : Nat :=
  stat.activeCount.toNat + stat.inactiveCount.toNat + stat.speculativeCount.toNat +
    stat.wireCount.toNat + stat.compressorPageCount.toNat + stat.freeCount.toNat

theorem useAndCache_toInt (stat : VmStatistics64) (pageSize : PageSize)
    (fits : denominatorPages stat < 2 ^ 32) :
    (useAndCache stat pageSize).toInt =
      ((denominatorPages stat - stat.freeCount.toNat : Nat) : Int) * pageSize.bytes.toNat := by
  refine (pageBytes_eq_iff _ pageSize _).mpr ?_
  simp only [denominatorPages] at fits ⊢
  simp only [UInt32.toNat_add]
  omega

theorem denominator_toInt (stat : VmStatistics64) (pageSize : PageSize)
    (fits : denominatorPages stat < 2 ^ 32) :
    (denominator stat pageSize).toInt = (denominatorPages stat : Int) * pageSize.bytes.toNat := by
  have freePages : stat.freeCount.toNat ≤ denominatorPages stat := Nat.le_add_left _ _
  have bytes : denominatorPages stat * pageSize.bytes.toNat < 2 ^ 63 :=
    calc denominatorPages stat * pageSize.bytes.toNat
        ≤ (2 ^ 32 - 1) * 2 ^ 31 := Nat.mul_le_mul (Nat.le_sub_one_of_lt fits) pageSize.small
      _ < 2 ^ 63 := by decide
  have sum : ((denominatorPages stat - stat.freeCount.toNat : Nat) : Int) * pageSize.bytes.toNat +
      stat.freeCount.toNat * pageSize.bytes.toNat =
        ((denominatorPages stat * pageSize.bytes.toNat : Nat) : Int) := by
    rw [← Int.add_mul, Int.natCast_mul]
    congr 1
    omega
  rw [denominator_eq, Int64.toInt_add, useAndCache_toInt stat pageSize fits, pageBytes_toInt, sum,
    Int.bmod_eq_of_le_mul_two (by omega) (by omega), Int.natCast_mul]

theorem kindTotal_toNat (stat : VmStatistics64) (pageSize : PageSize)
    (queues : stat.internalPageCount.toNat + stat.externalPageCount.toNat =
      stat.activeCount.toNat + stat.inactiveCount.toNat + stat.speculativeCount.toNat)
    (fits : denominatorPages stat < 2 ^ 32) :
    (kindTotal stat pageSize).toNat = denominatorPages stat * pageSize.bytes.toNat := by
  rw [kindTotal, pageBytes_toNat]
  congr 1
  simp only [denominatorPages] at fits ⊢
  simp only [UInt32.toNat_add]
  omega

/-- The total over the queues leaves the speculative queue out. -/
theorem queueTotal_toNat (stat : VmStatistics64) (pageSize : PageSize)
    (fits : denominatorPages stat < 2 ^ 32) :
    (queueTotal stat pageSize).toNat =
      (denominatorPages stat - stat.speculativeCount.toNat) * pageSize.bytes.toNat := by
  rw [queueTotal, pageBytes_toNat]
  congr 1
  simp only [denominatorPages] at fits ⊢
  simp only [UInt32.toNat_add]
  omega

/-- No sum of counters that a total rests on passes 32 bits. -/
structure SumsFit (stat : VmStatistics64) : Prop where
  useAndCache : stat.activeCount.toNat + stat.inactiveCount.toNat + stat.speculativeCount.toNat +
    stat.wireCount.toNat + stat.compressorPageCount.toNat < 2 ^ 32
  cache : stat.purgeableCount.toNat + stat.externalPageCount.toNat < 2 ^ 32
  queueTotal : stat.inactiveCount.toNat + stat.activeCount.toNat + stat.freeCount.toNat +
    stat.compressorPageCount.toNat + stat.wireCount.toNat < 2 ^ 32
  kindTotal : stat.internalPageCount.toNat + stat.externalPageCount.toNat + stat.freeCount.toNat +
    stat.compressorPageCount.toNat + stat.wireCount.toNat < 2 ^ 32

/-- Of a snapshot whose sums fit, the totals agree exactly when no page is speculative. -/
theorem getSystemMemoryPressure_totals_agree_iff (stat : VmStatistics64) (pageSize : PageSize)
    (swapUsed : UInt64)
    (queues : stat.internalPageCount.toNat + stat.externalPageCount.toNat =
      stat.activeCount.toNat + stat.inactiveCount.toNat + stat.speculativeCount.toNat)
    (fits : SumsFit stat) :
    TotalsAgree (getSystemMemoryPressure ⟨some pageSize, some stat, some swapUsed⟩).1 ↔
      stat.speculativeCount = 0 := by
  have pages : denominatorPages stat < 2 ^ 32 := by
    have kinds := fits.kindTotal
    simp only [denominatorPages]
    omega
  have speculative : stat.speculativeCount.toNat ≤ denominatorPages stat := by
    simp only [denominatorPages]
    omega
  have positive := pageSize.positive
  rw [totalsAgree_iff, denominator_toInt stat pageSize pages, queueTotal_toNat stat pageSize pages,
    kindTotal_toNat stat pageSize queues pages, ← Int.natCast_mul, Int.natCast_inj, Int.natCast_inj,
    Nat.mul_left_inj (by omega), ← UInt32.toNat_inj]
  simp only [and_true, UInt32.toNat_zero]
  omega

/-- Eight pages on the queues, of which `speculative` are read ahead of use. -/
def smallSnapshot (speculative : UInt32) : VmStatistics64 :=
  { VmStatistics64.zero with
    activeCount := 5, inactiveCount := 3 - speculative, speculativeCount := speculative
    internalPageCount := 6, externalPageCount := 2
    wireCount := 4, compressorPageCount := 1, freeCount := 7 }

theorem getSystemMemoryPressure_totals_agree_small :
    TotalsAgree
        (getSystemMemoryPressure ⟨some page4096, some (smallSnapshot 0), some 0⟩).1 ↔
      (smallSnapshot 0).speculativeCount = 0 :=
  getSystemMemoryPressure_totals_agree_iff (smallSnapshot 0) page4096 0 (by decide)
    ⟨by decide, by decide, by decide, by decide⟩

theorem smallSnapshot_totals_differ :
    (smallSnapshot 1).internalPageCount.toNat + (smallSnapshot 1).externalPageCount.toNat =
        (smallSnapshot 1).activeCount.toNat + (smallSnapshot 1).inactiveCount.toNat +
          (smallSnapshot 1).speculativeCount.toNat ∧
      SumsFit (smallSnapshot 1) ∧
      ¬ TotalsAgree
        (getSystemMemoryPressure ⟨some page4096, some (smallSnapshot 1), some 0⟩).1 := by
  refine ⟨by decide, ⟨by decide, by decide, by decide, by decide⟩, fun agree => ?_⟩
  have queues := ((totalsAgree_iff _ _ _).mp agree).1
  exact absurd queues (by decide)

end MemoryDemo.System.Pressure
