import MemoryDemo.System.ReportTexts

/-! `PrintMemoryMetrics` of `macos/system/activity_monitor_demo.mm`: which rows of the table that it
prints fit one another. -/

namespace MemoryDemo.System.MetricsTable
open Library.Rounding Statistics Metrics FileMapReports ReportTexts

/-- `count * page_size` of a counter of 32 bits. -/
def counterBytes (metrics : MemoryMetrics) (count : UInt32) : Int :=
  (count.toUInt64 * metrics.pageSize).toNat

/-- `total_uncompressed_pages_in_compressor * page_size`. -/
def uncompressedBytes (metrics : MemoryMetrics) : Int :=
  (metrics.vmStat.totalUncompressedPagesInCompressor * metrics.pageSize).toNat

/-- The line between two blocks of the table. -/
def tableRule : Line :=
  .text "├────────────────────────────────────┼───────────────────┤"

def printMemoryMetrics (metrics : MemoryMetrics) : List Line :=
  [.text "┌────────────────────────────────────┬───────────────────┐",
    .text "│ 系统内存状态                         │                   │",
    tableRule,
    .row "App 内存" [.gigabytes metrics.appMemory.toInt],
    .row "联动内存" [.gigabytes metrics.wiredMemory.toInt],
    .row "被压缩" [.gigabytes metrics.compressedMemory.toInt],
    tableRule,
    .row "purgeable" [.megabytes (counterBytes metrics metrics.vmStat.purgeableCount)],
    .row "compressor_page_count"
      [.gigabytes (counterBytes metrics metrics.vmStat.compressorPageCount)],
    .row "total_uncompressed_pages" [.gigabytes (uncompressedBytes metrics)],
    .row "external_page_count" [.megabytes (counterBytes metrics metrics.vmStat.externalPageCount)],
    .row "speculative_count" [.megabytes (counterBytes metrics metrics.vmStat.speculativeCount)],
    tableRule,
    .row "已缓存文件" [.gigabytes metrics.cachedFiles.toInt],
    .row "空闲内存" [.gigabytes metrics.freeMemory.toInt],
    .row "已使用的交换" [.gigabytes metrics.swapUsed.toInt],
    tableRule,
    .row "总内存" [.gigabytes metrics.totalMemory.toInt],
    .text "└────────────────────────────────────┴───────────────────┘"]

/-- What a row with one column shows. -/
def reading (text : Amount → List Char) (lines : List Line) (label : String) :
    Option (Int × Nat) :=
  match columnTexts text label lines with
  | [cell] => readSigned cell
  | _ => none

/-- The rows whose figures make up the total. -/
def partLabels : List String :=
  ["App 内存", "联动内存", "被压缩", "已缓存文件", "空闲内存"]

/-- The five rows and the total are in gigabytes, and fit up to three hundredths. -/
def AddsUp (text : Amount → List Char) (lines : List Line) : Prop :=
  match partLabels.mapM (reading text lines), reading text lines "总内存" with
  | some parts, some total =>
    (∀ part ∈ parts, part.2 = 3) ∧ total.2 = 3 ∧ |(parts.map Prod.fst).sum - total.1| ≤ 3
  | _, _ => False

/-- The cached files, in gigabytes, are the pages of files and the purgeable ones, in megabytes, up
to the rounding of a gigabyte and of two megabytes. -/
def CachedFits (text : Amount → List Char) (lines : List Line) : Prop :=
  match reading text lines "已缓存文件",
    ["external_page_count", "purgeable"].mapM (reading text lines) with
  | some cached, some parts =>
    cached.2 = 3 ∧ (∀ part ∈ parts, part.2 = 2) ∧
      |(parts.map Prod.fst).sum - 1024 * cached.1| ≤ 513
  | _, _ => False

/-- The wraps of the cached pages are those of the total and what the subtraction of the purgeable
pages gains by going below zero. -/
def WrapsCancel (stat : VmStatistics64) : Prop :=
  (stat.externalPageCount.toNat + stat.purgeableCount.toNat) / 2 ^ 32 =
    (if stat.internalPageCount < stat.purgeableCount then 1 else 0) +
      (stat.internalPageCount.toNat + stat.externalPageCount.toNat + stat.freeCount.toNat +
        stat.compressorPageCount.toNat + stat.wireCount.toNat) / 2 ^ 32

instance (stat : VmStatistics64) : Decidable (WrapsCancel stat) :=
  inferInstanceAs (Decidable (_ = _))

section Sums
variable (rounding : Nearest Rat) (bits : Nat)

theorem gigabytes_sum (scale : Rat) (counts : List Int) :
    (counts.map fun count => scale * (100 * gigabytes bits count)).sum =
      scale * (100 * gigabytes bits counts.sum) := by
  induction counts with
  | nil => simp [gigabytes]
  | cons count rest ih =>
    rw [List.map_cons, List.sum_cons, List.sum_cons, ih, gigabytes, gigabytes, gigabytes]
    push_cast
    ring

variable {first second : Int}

theorem gigabytes_inj : gigabytes bits first = gigabytes bits second ↔ first = second := by
  rw [gigabytes, gigabytes, div_left_inj' (by norm_num), div_left_inj' (by norm_num),
    div_left_inj' (by norm_num), mul_left_inj' (by positivity), Int.cast_inj]

/-- Numbers of pages that differ by whole wraps are far apart in gigabytes. -/
theorem gigabytes_apart (wraps : (2 : Int) ^ 32 ∣ first - second) (differ : first ≠ second) :
    4 ≤ |gigabytes bits first - gigabytes bits second| := by
  have apart : 2 ^ 32 ≤ |first - second| :=
    Int.le_of_dvd (abs_pos.mpr (sub_ne_zero.mpr differ)) ((dvd_abs _ _).mpr wraps)
  have pages : (2 : Rat) ^ 32 ≤ |(first : Rat) - second| := by exact_mod_cast apart
  have size : (1 : Rat) ≤ 2 ^ bits := one_le_pow₀ (by norm_num)
  have difference : gigabytes bits first - gigabytes bits second =
      ((first : Rat) - second) * (2 ^ bits / 2 ^ 30) := by
    rw [gigabytes, gigabytes]
    ring
  rw [difference, abs_mul, abs_of_pos (show (0 : Rat) < 2 ^ bits / 2 ^ 30 by positivity)]
  calc (4 : Rat)
      = 2 ^ 32 * (1 / 2 ^ 30) := by norm_num
    _ ≤ |(first : Rat) - second| * (2 ^ bits / 2 ^ 30) := by gcongr

/-- Few parts, printed in gigabytes or in a part of them, against their total in gigabytes. -/
theorem parts_fit_iff {shown : Int → Int} {scale slack total : Int} {parts : List Int}
    (positive : 0 < scale)
    (near : ∀ count, |(shown count : Rat) - scale * (100 * gigabytes bits count)| ≤ 1 / 2)
    (room : parts.length + scale ≤ 2 * slack) (small : slack < 200 * scale)
    (wraps : (2 : Int) ^ 32 ∣ parts.sum - total) :
    |(parts.map shown).sum - scale * hundredths rounding (gigabytes bits total)| ≤ slack ↔
      parts.sum = total := by
  have positive' : (0 : Rat) < scale := by exact_mod_cast positive
  have room' : (parts.length : Rat) + scale ≤ 2 * slack := by exact_mod_cast room
  have small' : (slack : Rat) < 200 * scale := by exact_mod_cast small
  have sum := sum_near near parts
  rw [gigabytes_sum] at sum
  have last : |(scale : Rat) * hundredths rounding (gigabytes bits total) -
      scale * (100 * gigabytes bits total)| ≤ scale * (1 / 2) := by
    rw [← mul_sub, abs_mul, abs_of_pos positive']
    exact mul_le_mul_of_nonneg_left (hundredths_near rounding _) positive'.le
  rw [abs_le] at sum last
  have close : |(((parts.map shown).sum - scale * hundredths rounding (gigabytes bits total) : Int) :
      Rat) - (scale * (100 * gigabytes bits parts.sum) - scale * (100 * gigabytes bits total))| ≤
        slack := by
    rw [abs_le, Int.cast_sub, Int.cast_mul]
    constructor <;> linarith
  have apart : (scale : Rat) * (100 * gigabytes bits parts.sum) ≠
      scale * (100 * gigabytes bits total) →
        2 * (slack : Rat) < |(scale : Rat) * (100 * gigabytes bits parts.sum) -
          scale * (100 * gigabytes bits total)| := by
    intro differ
    have gap := gigabytes_apart bits wraps (fun same => differ (by rw [same]))
    rw [← mul_sub, ← mul_sub, abs_mul, abs_mul, abs_of_pos positive', abs_of_pos (by norm_num)]
    calc 2 * (slack : Rat)
        < scale * (100 * 4) := by linarith
      _ ≤ scale * (100 * |gigabytes bits parts.sum - gigabytes bits total|) := by gcongr
  rw [near_iff close apart, mul_right_inj' positive'.ne', mul_right_inj' (by norm_num),
    gigabytes_inj]

theorem parts_near_iff {parts : List Int} {total : Int} (few : parts.length ≤ 5)
    (wraps : (2 : Int) ^ 32 ∣ parts.sum - total) :
    |(parts.map fun count => hundredths rounding (gigabytes bits count)).sum -
      hundredths rounding (gigabytes bits total)| ≤ 3 ↔ parts.sum = total := by
  have near (count : Int) : |(hundredths rounding (gigabytes bits count) : Rat) -
      ((1 : Int) : Rat) * (100 * gigabytes bits count)| ≤ 1 / 2 := by
    rw [Int.cast_one, one_mul]
    exact hundredths_near rounding (gigabytes bits count)
  have fits := parts_fit_iff rounding bits (by decide) near
    (show (parts.length : Int) + 1 ≤ 2 * 3 by omega) (by decide) wraps
  rwa [one_mul] at fits

theorem megabytes_near_iff {parts : List Int} {total : Int} (few : parts.length ≤ 2)
    (wraps : (2 : Int) ^ 32 ∣ parts.sum - total) :
    |(parts.map fun count => hundredths rounding (megabytes bits count)).sum -
      1024 * hundredths rounding (gigabytes bits total)| ≤ 513 ↔ parts.sum = total := by
  apply parts_fit_iff rounding bits (by decide) _ (by omega) (by decide) wraps
  intro count
  have same : ((1024 : Int) : Rat) * (100 * gigabytes bits count) = 100 * megabytes bits count := by
    rw [gigabytes, megabytes, Int.cast_ofNat]
    ring
  rw [same]
  exact hundredths_near rounding (megabytes bits count)

end Sums

section Counters
variable (stat : VmStatistics64)

/-- The pages behind the five figures. -/
def partPages : List UInt32 :=
  [stat.internalPageCount - stat.purgeableCount, stat.wireCount, stat.compressorPageCount,
    stat.externalPageCount + stat.purgeableCount, stat.freeCount]

def totalPages : UInt32 :=
  stat.internalPageCount + stat.externalPageCount + stat.freeCount + stat.compressorPageCount +
    stat.wireCount

/-- What a counter stands for as a number. -/
def count (word : UInt32) : Int :=
  word.toNat

theorem partPages_wraps :
    (2 : Int) ^ 32 ∣ ((partPages stat).map count).sum - count (totalPages stat) := by
  have internal := stat.internalPageCount.toNat_lt
  have purgeable := stat.purgeableCount.toNat_lt
  simp only [partPages, totalPages, count, List.map_cons, List.map_nil, List.sum_cons,
    List.sum_nil, UInt32.toNat_add, UInt32.toNat_sub]
  omega

theorem partPages_sum_iff :
    ((partPages stat).map count).sum = count (totalPages stat) ↔ WrapsCancel stat := by
  have internal := stat.internalPageCount.toNat_lt
  have purgeable := stat.purgeableCount.toNat_lt
  simp only [partPages, totalPages, count, WrapsCancel, List.map_cons, List.map_nil,
    List.sum_cons, List.sum_nil, UInt32.toNat_add, UInt32.toNat_sub, UInt32.lt_iff_toNat_lt]
  split <;> omega

theorem cachedPages_wraps :
    (2 : Int) ^ 32 ∣ ([stat.externalPageCount, stat.purgeableCount].map count).sum -
      count (stat.externalPageCount + stat.purgeableCount) := by
  simp only [count, List.map_cons, List.map_nil, List.sum_cons, List.sum_nil, UInt32.toNat_add]
  omega

theorem cachedPages_sum_iff :
    ([stat.externalPageCount, stat.purgeableCount].map count).sum =
        count (stat.externalPageCount + stat.purgeableCount) ↔
      stat.externalPageCount.toNat + stat.purgeableCount.toNat < 2 ^ 32 := by
  rw [← add_toNat_iff]
  simp only [count, List.map_cons, List.map_nil, List.sum_cons, List.sum_nil]
  omega

end Counters

section Tables
variable (text : Amount → List Char) (metrics : MemoryMetrics)

theorem reading_parts :
    partLabels.mapM (reading text (printMemoryMetrics metrics)) =
      [metrics.appMemory, metrics.wiredMemory, metrics.compressedMemory, metrics.cachedFiles,
        metrics.freeMemory].mapM fun figure => readSigned (text (.gigabytes figure.toInt)) := by
  simp [partLabels, reading, printMemoryMetrics, tableRule, columnTexts]

theorem reading_total :
    reading text (printMemoryMetrics metrics) "总内存" =
      readSigned (text (.gigabytes metrics.totalMemory.toInt)) := by
  simp [reading, printMemoryMetrics, tableRule, columnTexts]

theorem reading_cached :
    reading text (printMemoryMetrics metrics) "已缓存文件" =
      readSigned (text (.gigabytes metrics.cachedFiles.toInt)) := by
  simp [reading, printMemoryMetrics, tableRule, columnTexts]

theorem reading_counters :
    ["external_page_count", "purgeable"].mapM (reading text (printMemoryMetrics metrics)) =
      [metrics.vmStat.externalPageCount, metrics.vmStat.purgeableCount].mapM fun counter =>
        readSigned (text (.megabytes (counterBytes metrics counter))) := by
  simp [reading, printMemoryMetrics, tableRule, columnTexts]

theorem compressed_columns :
    columnTexts text "被压缩" (printMemoryMetrics metrics) =
        [text (.gigabytes metrics.compressedMemory.toInt)] ∧
      columnTexts text "compressor_page_count" (printMemoryMetrics metrics) =
        [text (.gigabytes (counterBytes metrics metrics.vmStat.compressorPageCount))] := by
  constructor <;> simp [printMemoryMetrics, tableRule, columnTexts]

end Tables

section Snapshots
variable (rounding : Nearest Rat) (conversion : Conversion) (pageSize : PageSize) {bits : Nat}
  (stat : VmStatistics64) (swapUsage : Option UInt64)

theorem pageBytes_count (power : pageSize.bytes.toNat = 2 ^ bits) (word : UInt32) :
    (pageBytes word pageSize).toInt64.toInt = count word * 2 ^ bits :=
  (pageBytes_sub pageSize power word word).1

theorem counterBytes_count (power : pageSize.bytes.toNat = 2 ^ bits) (word : UInt32) :
    counterBytes (snapshot pageSize stat swapUsage) word = count word * 2 ^ bits := by
  change ((pageBytes word pageSize).toNat : Int) = _
  rw [pageBytes_toNat, power, count]
  push_cast
  rfl

theorem readSigned_count (power : pageSize.bytes.toNat = 2 ^ bits) (word : UInt32) :
    readSigned (amountText rounding conversion (.gigabytes (count word * 2 ^ bits))) =
        some (hundredths rounding (gigabytes bits (count word)), 3) ∧
      readSigned (amountText rounding conversion (.megabytes (count word * 2 ^ bits))) =
        some (hundredths rounding (megabytes bits (count word)), 2) :=
  ⟨readSigned_gigabytes rounding conversion (bits_short pageSize power) (count_few word),
    readSigned_megabytes rounding conversion (bits_short pageSize power) (count_few word)⟩

theorem snapshot_addsUp_iff (power : pageSize.bytes.toNat = 2 ^ bits) :
    AddsUp (amountText rounding conversion) (printMemoryMetrics (snapshot pageSize stat swapUsage)) ↔
      WrapsCancel stat := by
  have shown (word : UInt32) := (readSigned_count rounding conversion pageSize power word).1
  rw [← partPages_sum_iff, ← parts_near_iff rounding bits (by simp [partPages])
    (partPages_wraps stat), AddsUp, reading_parts, reading_total]
  simp [snapshot, getSystemMemoryMetrics, fillMetrics, pageBytes_count pageSize power, shown,
    partPages, totalPages]

theorem snapshot_cachedFits_iff (power : pageSize.bytes.toNat = 2 ^ bits) :
    CachedFits (amountText rounding conversion)
        (printMemoryMetrics (snapshot pageSize stat swapUsage)) ↔
      stat.externalPageCount.toNat + stat.purgeableCount.toNat < 2 ^ 32 := by
  have shown (word : UInt32) := readSigned_count rounding conversion pageSize power word
  rw [← cachedPages_sum_iff, ← megabytes_near_iff rounding bits (by simp) (cachedPages_wraps stat),
    CachedFits, reading_cached, reading_counters]
  have cached : (snapshot pageSize stat swapUsage).cachedFiles.toInt =
      count (stat.externalPageCount + stat.purgeableCount) * 2 ^ bits :=
    pageBytes_count pageSize power _
  have same : (snapshot pageSize stat swapUsage).vmStat = stat := rfl
  simp [counterBytes_count pageSize stat swapUsage power, cached, same, shown]

theorem snapshot_compressed (text : Amount → List Char) :
    columnTexts text "被压缩" (printMemoryMetrics (snapshot pageSize stat swapUsage)) =
      columnTexts text "compressor_page_count"
        (printMemoryMetrics (snapshot pageSize stat swapUsage)) := by
  rw [(compressed_columns _ _).1, (compressed_columns _ _).2]
  change [text (.gigabytes (pageBytes stat.compressorPageCount pageSize).toInt64.toInt)] =
    [text (.gigabytes (pageBytes stat.compressorPageCount pageSize).toNat)]
  rw [pageBytes_toInt, pageBytes_toNat]
  push_cast
  rfl

end Snapshots

/-- The counters that the metrics are computed from, where both calls succeed. -/
def measured (host : Host) : Option VmStatistics64 :=
  host.hostPageSize.bind fun _ => host.hostStatistics64

/-- Which rows of the table fit one another, by the counters that it is made from: the figures and
their total, the cached files and their two kinds, and the compressed memory that has two rows. -/
structure TableFits (text : Amount → List Char) (counters : Option VmStatistics64)
    (lines : List Line) : Prop where
  adds : AddsUp text lines ↔ ∀ stat ∈ counters, WrapsCancel stat
  cached : CachedFits text lines ↔ ∀ stat ∈ counters,
    stat.externalPageCount.toNat + stat.purgeableCount.toNat < 2 ^ 32
  compressed : columnTexts text "被压缩" lines = columnTexts text "compressor_page_count" lines

section Hosts
variable (rounding : Nearest Rat) (conversion : Conversion)

theorem snapshot_tableFits (pageSize : PageSize) {bits : Nat}
    (power : pageSize.bytes.toNat = 2 ^ bits) (stat : VmStatistics64) (swapUsage : Option UInt64) :
    TableFits (amountText rounding conversion) (some stat)
      (printMemoryMetrics (snapshot pageSize stat swapUsage)) := by
  constructor
  · rw [snapshot_addsUp_iff rounding conversion pageSize stat swapUsage power]
    simp
  · rw [snapshot_cachedFits_iff rounding conversion pageSize stat swapUsage power]
    simp
  · exact snapshot_compressed pageSize stat swapUsage _

/-- Where a call fails, the metrics are all zero, and the table is that of an empty machine. -/
theorem zero_tableFits :
    TableFits (amountText rounding conversion) none (printMemoryMetrics zeroMetrics) := by
  have same : printMemoryMetrics zeroMetrics =
      printMemoryMetrics (snapshot page4096 VmStatistics64.zero none) := rfl
  have empty := snapshot_tableFits rounding conversion page4096
    (show page4096.bytes.toNat = 2 ^ 12 from rfl) VmStatistics64.zero none
  rw [same]
  constructor
  · rw [empty.adds]
    simp [show WrapsCancel VmStatistics64.zero by decide]
  · rw [empty.cached]
    simp [VmStatistics64.zero]
  · exact empty.compressed

/-- The printed total is that of the five printed figures if and only if the wraps of the counters
cancel, and the cached files are those of the two counters below if and only if their sum does not
wrap; the compressed memory is the same in its two rows always. -/
theorem printMemoryMetrics_tableFits (host : Host)
    (power : ∀ pageSize ∈ host.hostPageSize, ∃ bits, pageSize.bytes.toNat = 2 ^ bits) :
    TableFits (amountText rounding conversion) (measured host)
      (printMemoryMetrics (getSystemMemoryMetrics host)) := by
  obtain ⟨hostPageSize, hostStatistics64, swapUsage⟩ := host
  cases hostPageSize with
  | none => exact zero_tableFits rounding conversion
  | some pageSize =>
    cases hostStatistics64 with
    | none => exact zero_tableFits rounding conversion
    | some stat =>
      obtain ⟨bits, size⟩ := power pageSize rfl
      exact snapshot_tableFits rounding conversion pageSize size stat swapUsage

/-- A purgeable page more than the internal ones, and as many pages of files that the sum of both
wraps as well: the table adds up all the same. -/
def bothWrap : VmStatistics64 :=
  { VmStatistics64.zero with purgeableCount := 1, externalPageCount := 4294967295 }

theorem printMemoryMetrics_tableFits_bothWrap :
    WrapsCancel bothWrap ∧ ¬ NoWrap bothWrap ∧
      TableFits (amountText .even exactly) (measured ⟨some page4096, some bothWrap, none⟩)
        (printMemoryMetrics (getSystemMemoryMetrics ⟨some page4096, some bothWrap, none⟩)) :=
  ⟨by decide, fun fits => absurd fits.app (by decide),
    printMemoryMetrics_tableFits .even exactly ⟨some page4096, some bothWrap, none⟩
      fun _ found => ⟨12, by cases found; rfl⟩⟩

end Hosts

end MemoryDemo.System.MetricsTable
