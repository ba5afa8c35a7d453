import MemoryDemo.System.Statistics
import Mathlib.Tactic.Ring

/-! `GetSystemMemoryMetrics` of `macos/system/activity_monitor_demo.mm`. -/

namespace MemoryDemo.System.Metrics
open Statistics

structure MemoryMetrics where
  appMemory : Int64
  wiredMemory : Int64
  compressedMemory : Int64
  cachedFiles : Int64
  freeMemory : Int64
  swapUsed : Int64
  totalMemory : Int64
  vmStat : VmStatistics64
  pageSize : UInt64
  deriving DecidableEq, Repr

/-- `MemoryMetrics metrics = {0}`. -/
def zeroMetrics : MemoryMetrics :=
  ⟨0, 0, 0, 0, 0, 0, 0, VmStatistics64.zero, 0⟩

def fillMetrics (stat : VmStatistics64) (pageSize : PageSize) (swapUsage : Option UInt64) :
    MemoryMetrics where
  vmStat := stat
  pageSize := pageSize.bytes
  appMemory := (pageBytes (stat.internalPageCount - stat.purgeableCount) pageSize).toInt64
  wiredMemory := (pageBytes stat.wireCount pageSize).toInt64
  compressedMemory := (pageBytes stat.compressorPageCount pageSize).toInt64
  cachedFiles := (pageBytes (stat.externalPageCount + stat.purgeableCount) pageSize).toInt64
  freeMemory := (pageBytes stat.freeCount pageSize).toInt64
  totalMemory := (pageBytes (stat.internalPageCount + stat.externalPageCount + stat.freeCount +
    stat.compressorPageCount + stat.wireCount) pageSize).toInt64
  swapUsed := match swapUsage with
    | some used => used.toInt64
    | none => 0

def getSystemMemoryMetrics (host : Host) : MemoryMetrics :=
  match host.hostPageSize, host.hostStatistics64 with
  | some pageSize, some stat => fillMetrics stat pageSize host.swapUsage
  | _, _ => zeroMetrics

/-- Every figure is the integer value of its page expression, and the figures of the
partition make up the total. -/
structure AccountsForAll (metrics : MemoryMetrics) (stat : VmStatistics64) (pageBytes : Int) :
    Prop where
  app : metrics.appMemory.toInt =
    ((stat.internalPageCount.toNat : Int) - stat.purgeableCount.toNat) * pageBytes
  wired : metrics.wiredMemory.toInt = (stat.wireCount.toNat : Int) * pageBytes
  compressed : metrics.compressedMemory.toInt = (stat.compressorPageCount.toNat : Int) * pageBytes
  cached : metrics.cachedFiles.toInt =
    ((stat.externalPageCount.toNat : Int) + stat.purgeableCount.toNat) * pageBytes
  free : metrics.freeMemory.toInt = (stat.freeCount.toNat : Int) * pageBytes
  total : metrics.totalMemory.toInt =
    ((stat.internalPageCount.toNat : Int) + stat.externalPageCount.toNat + stat.freeCount.toNat +
      stat.compressorPageCount.toNat + stat.wireCount.toNat) * pageBytes
  partition : metrics.appMemory.toInt + metrics.wiredMemory.toInt + metrics.compressedMemory.toInt +
    metrics.cachedFiles.toInt + metrics.freeMemory.toInt = metrics.totalMemory.toInt

/-- None of the three sums of counters wraps in 32 bits. -/
structure NoWrap (stat : VmStatistics64) : Prop where
  app : stat.purgeableCount.toNat ≤ stat.internalPageCount.toNat
  cached : stat.externalPageCount.toNat + stat.purgeableCount.toNat < 2 ^ 32
  total : stat.internalPageCount.toNat + stat.externalPageCount.toNat + stat.freeCount.toNat +
    stat.compressorPageCount.toNat + stat.wireCount.toNat < 2 ^ 32

theorem total_toNat_iff (stat : VmStatistics64) :
    (((stat.internalPageCount + stat.externalPageCount + stat.freeCount +
        stat.compressorPageCount + stat.wireCount).toNat : Nat) : Int) =
      (stat.internalPageCount.toNat : Int) + stat.externalPageCount.toNat + stat.freeCount.toNat +
        stat.compressorPageCount.toNat + stat.wireCount.toNat ↔
      stat.internalPageCount.toNat + stat.externalPageCount.toNat + stat.freeCount.toNat +
        stat.compressorPageCount.toNat + stat.wireCount.toNat < 2 ^ 32 := by
  simp only [UInt32.toNat_add]
  omega

/-- The metrics account for all memory exactly if and only if no sum of counters wraps. -/
theorem getSystemMemoryMetrics_accounts_iff (stat : VmStatistics64) (pageSize : PageSize)
    (swapUsage : Option UInt64) :
    AccountsForAll (getSystemMemoryMetrics ⟨some pageSize, some stat, swapUsage⟩) stat
      pageSize.bytes.toNat ↔ NoWrap stat := by
  constructor
  · intro accounts
    exact ⟨(sub_toNat_iff _ _).mp ((pageBytes_eq_iff _ pageSize _).mp accounts.app),
      (add_toNat_iff _ _).mp ((pageBytes_eq_iff _ pageSize _).mp accounts.cached),
      (total_toNat_iff stat).mp ((pageBytes_eq_iff _ pageSize _).mp accounts.total)⟩
  · intro fits
    have app := (pageBytes_eq_iff _ pageSize _).mpr ((sub_toNat_iff _ _).mpr fits.app)
    have cached := (pageBytes_eq_iff _ pageSize _).mpr ((add_toNat_iff _ _).mpr fits.cached)
    have total := (pageBytes_eq_iff _ pageSize _).mpr ((total_toNat_iff stat).mpr fits.total)
    have wired := pageBytes_toInt stat.wireCount pageSize
    have compressed := pageBytes_toInt stat.compressorPageCount pageSize
    have free := pageBytes_toInt stat.freeCount pageSize
    refine ⟨app, wired, compressed, cached, free, total, ?_⟩
    simp only [getSystemMemoryMetrics, fillMetrics, app, wired, compressed, cached, free, total]
    ring

/-- Four purgeable pages, three of them counted as internal. -/
def purgeableSnapshot : VmStatistics64 :=
  { VmStatistics64.zero with internalPageCount := 3, purgeableCount := 4, externalPageCount := 10 }

theorem purgeableSnapshot_app_wraps :
    (getSystemMemoryMetrics ⟨some page4096, some purgeableSnapshot, none⟩).appMemory.toInt =
        4294967295 * 4096 ∧
      ¬ AccountsForAll (getSystemMemoryMetrics ⟨some page4096, some purgeableSnapshot, none⟩)
        purgeableSnapshot page4096.bytes.toNat := by
  have wrapped : (getSystemMemoryMetrics
      ⟨some page4096, some purgeableSnapshot, none⟩).appMemory.toInt = 4294967295 * 4096 := by
    decide
  refine ⟨wrapped, fun accounts => ?_⟩
  have app := accounts.app
  rw [wrapped] at app
  exact absurd app (by decide)

end MemoryDemo.System.Metrics
