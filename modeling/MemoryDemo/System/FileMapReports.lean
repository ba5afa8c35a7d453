import MemoryDemo.System.Metrics

/-! The tables and the analyses of changes that `TestFileMapSharedNoModify` and
`TestFileMapSharedModify` of `macos/system/activity_monitor_demo.mm` print. An amount is
kept as the integer that `ParseGB` or `ParseMB` is given. -/

namespace MemoryDemo.System.FileMapReports
open Statistics Metrics

inductive Amount where
  | gigabytes (bytes : Int)
  | megabytes (bytes : Int)
  deriving DecidableEq, Repr

def Amount.bytes : Amount → Int
  | .gigabytes bytes => bytes
  | .megabytes bytes => bytes

inductive Line where
  | text (content : String)
  | row (label : String) (columns : List Amount)
  | change (label : String) (amount : Amount) (expected : String)
  deriving DecidableEq, Repr

def appRow (snapshots : List MemoryMetrics) : Line :=
  .row "App 内存" (snapshots.map fun metrics => .gigabytes metrics.appMemory.toInt)

def cachedRow (snapshots : List MemoryMetrics) : Line :=
  .row "已缓存文件" (snapshots.map fun metrics => .gigabytes metrics.cachedFiles.toInt)

/-- `vm_stat.external_page_count * page_size`. -/
def externalBytes (metrics : MemoryMetrics) : UInt64 :=
  metrics.vmStat.externalPageCount.toUInt64 * metrics.pageSize

def externalRow (snapshots : List MemoryMetrics) : Line :=
  .row "external_page_count" (snapshots.map fun metrics => .megabytes (externalBytes metrics).toNat)

def cachedChange (first second : MemoryMetrics) (expected : String) : Line :=
  .change "  - 已缓存文件: " (.megabytes (second.cachedFiles - first.cachedFiles).toInt) expected

def appChange (first second : MemoryMetrics) (expected : String) : Line :=
  .change "  - App内存: " (.megabytes (second.appMemory - first.appMemory).toInt) expected

/-- The counters are subtracted in 32 bits before the product widens the difference. -/
def externalGrowth (first second : MemoryMetrics) (pageSize : UInt64) : UInt64 :=
  (second.vmStat.externalPageCount - first.vmStat.externalPageCount).toUInt64 * pageSize

def externalChange (first second : MemoryMetrics) (pageSize : UInt64) (expected : String) : Line :=
  .change "  - external_page_count: " (.megabytes (externalGrowth first second pageSize).toNat)
    expected

def testFileMapSharedNoModifyReport (before after : MemoryMetrics) : List Line :=
  [appRow [before, after], cachedRow [before, after], externalRow [before, after],
    .text "变化分析:",
    .text "写入后:",
    cachedChange before after " (预期增加约500MB)",
    appChange before after " (预期变化不大)",
    externalChange before after before.pageSize " (预期增加500MB)"]

def testFileMapSharedModifyReport (before afterMap after : MemoryMetrics) : List Line :=
  [appRow [before, afterMap, after], cachedRow [before, afterMap, after],
    externalRow [before, afterMap, after],
    .text "变化分析:",
    .text "映射后但写入前:",
    cachedChange before afterMap " (预期变化不大)",
    appChange before afterMap " (预期变化不大)",
    externalChange before afterMap before.pageSize " (预期变化不大)",
    .text "写入后:",
    cachedChange afterMap after " (预期增加约500MB)",
    appChange afterMap after " (预期增加)",
    externalChange afterMap after before.pageSize " (预期增加)"]

/-- The amounts in the row of the table with a label. -/
def columns (label : String) : List Line → List Int
  | [] => []
  | .row name amounts :: lines =>
    if name = label then amounts.map Amount.bytes else columns label lines
  | .text _ :: lines => columns label lines
  | .change _ _ _ :: lines => columns label lines

/-- The changes reported behind a label, in order. -/
def changes (label : String) : List Line → List Int
  | [] => []
  | .change name amount _ :: lines =>
    if name = label then amount.bytes :: changes label lines else changes label lines
  | .text _ :: lines => changes label lines
  | .row _ _ :: lines => changes label lines

/-- What each number but the first is more than the one before it. -/
def differences : List Int → List Int
  | first :: second :: rest => (second - first) :: differences (second :: rest)
  | [_] => []
  | [] => []

/-- The bytes that the counter stands for. -/
def counted (pageSize : PageSize) (stat : VmStatistics64) : Int :=
  (stat.externalPageCount.toNat : Int) * pageSize.bytes.toNat

/-- The reported changes of external_page_count are the differences of the counters, each
times the page size, and of the columns above them. -/
def ExternalExact (lines : List Line) (stats : List VmStatistics64) (pageSize : PageSize) : Prop :=
  changes "  - external_page_count: " lines = differences (stats.map (counted pageSize)) ∧
    changes "  - external_page_count: " lines = differences (columns "external_page_count" lines)

def snapshot (pageSize : PageSize) (stat : VmStatistics64) (swapUsage : Option UInt64) :
    MemoryMetrics :=
  getSystemMemoryMetrics ⟨some pageSize, some stat, swapUsage⟩

theorem externalBytes_snapshot (pageSize : PageSize) (stat : VmStatistics64)
    (swapUsage : Option UInt64) :
    ((externalBytes (snapshot pageSize stat swapUsage)).toNat : Int) = counted pageSize stat := by
  change ((pageBytes stat.externalPageCount pageSize).toNat : Int) = _
  rw [pageBytes_toNat, Int.natCast_mul, counted]

/-- A change is exact if and only if the counter did not fall. -/
theorem externalGrowth_eq_iff (pageSize : PageSize) (first second : VmStatistics64)
    (swapFirst swapSecond : Option UInt64) :
    ((externalGrowth (snapshot pageSize first swapFirst) (snapshot pageSize second swapSecond)
        pageSize.bytes).toNat : Int) = counted pageSize second - counted pageSize first ↔
      first.externalPageCount ≤ second.externalPageCount := by
  have positive := pageSize.positive
  change ((pageBytes (second.externalPageCount - first.externalPageCount) pageSize).toNat : Int) =
    _ ↔ _
  rw [pageBytes_toNat, Int.natCast_mul, counted, counted, ← Int.sub_mul,
    Int.mul_eq_mul_right_iff (by omega), sub_toNat_iff, UInt32.le_iff_toNat_le]

theorem noModify_columns (before after : MemoryMetrics) :
    columns "external_page_count" (testFileMapSharedNoModifyReport before after) =
      [((externalBytes before).toNat : Int), (externalBytes after).toNat] := by
  simp [testFileMapSharedNoModifyReport, appRow, cachedRow, externalRow, columns, Amount.bytes]

theorem noModify_changes (before after : MemoryMetrics) :
    changes "  - external_page_count: " (testFileMapSharedNoModifyReport before after) =
      [((externalGrowth before after before.pageSize).toNat : Int)] := by
  simp [testFileMapSharedNoModifyReport, appRow, cachedRow, externalRow, cachedChange, appChange,
    externalChange, changes, Amount.bytes]

theorem modify_columns (before afterMap after : MemoryMetrics) :
    columns "external_page_count" (testFileMapSharedModifyReport before afterMap after) =
      [((externalBytes before).toNat : Int), (externalBytes afterMap).toNat,
        (externalBytes after).toNat] := by
  simp [testFileMapSharedModifyReport, appRow, cachedRow, externalRow, columns, Amount.bytes]

theorem modify_changes (before afterMap after : MemoryMetrics) :
    changes "  - external_page_count: " (testFileMapSharedModifyReport before afterMap after) =
      [((externalGrowth before afterMap before.pageSize).toNat : Int),
        (externalGrowth afterMap after before.pageSize).toNat] := by
  simp [testFileMapSharedModifyReport, appRow, cachedRow, externalRow, cachedChange, appChange,
    externalChange, changes, Amount.bytes]

/-- The reports of both tests are exact if and only if the counter does not fall between
two snapshots that a change is reported for. -/
theorem externalChanges_exact_iff (pageSize : PageSize) (before afterMap after : VmStatistics64)
    (swapBefore swapMap swapAfter : Option UInt64) :
    (ExternalExact
        (testFileMapSharedNoModifyReport (snapshot pageSize before swapBefore)
          (snapshot pageSize after swapAfter))
        [before, after] pageSize ↔ before.externalPageCount ≤ after.externalPageCount) ∧
      (ExternalExact
        (testFileMapSharedModifyReport (snapshot pageSize before swapBefore)
          (snapshot pageSize afterMap swapMap) (snapshot pageSize after swapAfter))
        [before, afterMap, after] pageSize ↔
          before.externalPageCount ≤ afterMap.externalPageCount ∧
            afterMap.externalPageCount ≤ after.externalPageCount) := by
  have page : (snapshot pageSize before swapBefore).pageSize = pageSize.bytes := rfl
  constructor
  · rw [ExternalExact, noModify_columns, noModify_changes, page]
    simp only [externalBytes_snapshot, differences, List.map_cons, List.map_nil,
      List.cons.injEq, and_true, and_self]
    exact externalGrowth_eq_iff pageSize before after swapBefore swapAfter
  · rw [ExternalExact, modify_columns, modify_changes, page]
    simp only [externalBytes_snapshot, differences, List.map_cons, List.map_nil,
      List.cons.injEq, and_true, and_self]
    exact and_congr (externalGrowth_eq_iff pageSize before afterMap swapBefore swapMap)
      (externalGrowth_eq_iff pageSize afterMap after swapMap swapAfter)

/-- A snapshot with a number of file-backed pages and nothing else. -/
def cachedPages (count : UInt32) : VmStatistics64 :=
  { VmStatistics64.zero with externalPageCount := count }

/-- One cached page fewer is reported as 2^32 - 1 pages more, below columns that fall. -/
theorem cachedPages_fall_wraps :
    columns "external_page_count" (testFileMapSharedNoModifyReport
        (snapshot page4096 (cachedPages 10) none) (snapshot page4096 (cachedPages 9) none)) =
        [40960, 36864] ∧
      changes "  - external_page_count: " (testFileMapSharedNoModifyReport
        (snapshot page4096 (cachedPages 10) none) (snapshot page4096 (cachedPages 9) none)) =
        [4294967295 * 4096] ∧
      ¬ ExternalExact (testFileMapSharedNoModifyReport
        (snapshot page4096 (cachedPages 10) none) (snapshot page4096 (cachedPages 9) none))
        [cachedPages 10, cachedPages 9] page4096 := by
  rw [ExternalExact, noModify_columns, noModify_changes]
  exact ⟨by decide, by decide, by decide⟩

end MemoryDemo.System.FileMapReports
