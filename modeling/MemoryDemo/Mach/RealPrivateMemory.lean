import Mathlib.Algebra.BigOperators.Ring.List
import Mathlib.Algebra.Order.BigOperators.Group.List
import Mathlib.Algebra.Order.Ring.Nat
import MemoryDemo.Mach.PrintMemoryInfo

/-! The figure "real private" that `print_memory_info` reports, against the resident
private pages of all regions of the task. -/

namespace MemoryDemo.Mach.RealPrivateMemory
open Library.CursorWalk Library.Interval Library.Accumulator VmRegion PrintMemoryInfo

/-- The bytes of all resident private pages of a task, whatever region they lie in. -/
def residentPrivateBytes (space : AddressSpace) (vmPageSize : UInt64) : Nat :=
  vmPageSize.toNat * (space.regions.map (fun region => region.info.privatePagesResident.toNat)).sum

def privateBytes (vmPageSize : UInt64) (region : Region) : Nat :=
  region.info.privatePagesResident.toNat * vmPageSize.toNat

theorem residentPrivateBytes_eq (space : AddressSpace) (vmPageSize : UInt64) :
    residentPrivateBytes space vmPageSize =
      (space.regions.map (privateBytes vmPageSize)).sum := by
  unfold residentPrivateBytes privateBytes
  rw [List.sum_map_mul_right, Nat.mul_comm]

theorem privateShare_toNat (vmPageSize : UInt64) (region : Region)
    (fits : privateBytes vmPageSize region < 2 ^ 64) :
    (privateShare vmPageSize region).toNat =
      if CountsPrivate region.info then privateBytes vmPageSize region else 0 := by
  unfold privateShare
  split
  · rw [UInt64.toNat_mul, UInt32.toNat_toUInt64]
    exact Nat.mod_eq_of_lt fits
  · rfl

theorem realPrivateMemory_toNat (space : AddressSpace) (vmPageSize : UInt64)
    (fits : residentPrivateBytes space vmPageSize < 2 ^ 64) :
    ((space.regions.foldl (addRegion vmPageSize) ⟨0, 0⟩).realPrivateMemory).toNat =
      (space.regions.map (fun region =>
        if CountsPrivate region.info then privateBytes vmPageSize region else 0)).sum := by
  rw [residentPrivateBytes_eq] at fits
  have shares : space.regions.map (fun region => (privateShare vmPageSize region).toNat) =
      space.regions.map (fun region =>
        if CountsPrivate region.info then privateBytes vmPageSize region else 0) := by
    apply List.map_congr_left
    intro region member
    apply privateShare_toNat
    exact lt_of_le_of_lt (List.single_le_sum (by simp) _ (List.mem_map_of_mem member)) fits
  have bound := sum_split space.regions (privateBytes vmPageSize)
    (fun region => CountsPrivate region.info)
  have exact := foldl_toNat (addRegion vmPageSize) Totals.realPrivateMemory
    (privateShare vmPageSize) (addRegion_private vmPageSize) space.regions ⟨0, 0⟩
    (by rw [shares]; simp only [UInt64.toNat_zero, Nat.zero_add]; omega)
  rw [exact, shares]
  simp only [UInt64.toNat_zero, Nat.zero_add]

/-- The figure is exact if and only if resident private pages lie only in regions that
are private, or copy-on-write without another user of the object. -/
theorem printMemoryInfo_private_exact_iff (space : AddressSpace) (vmPageSize : UInt64)
    (vmInfo : TaskVmInfo) (fuel : Nat) (enough : space.regions.length < fuel)
    (paged : 0 < vmPageSize.toNat) (fits : residentPrivateBytes space vmPageSize < 2 ^ 64) :
    ∃ info, printMemoryInfo (steadyKernel space vmPageSize vmInfo) fuel = some (.ok info) ∧
      (info.totals.realPrivateMemory.toNat = residentPrivateBytes space vmPageSize ↔
        ∀ region ∈ space.regions, region.info.privatePagesResident ≠ 0 →
          CountsPrivate region.info) := by
  refine ⟨_, printMemoryInfo_steady space vmPageSize vmInfo fuel enough, ?_⟩
  have split := sum_split space.regions (privateBytes vmPageSize)
    (fun region => CountsPrivate region.info)
  have dropped : (space.regions.map (fun region =>
      if CountsPrivate region.info then 0 else privateBytes vmPageSize region)).sum = 0 ↔
      ∀ region ∈ space.regions, region.info.privatePagesResident ≠ 0 →
        CountsPrivate region.info := by
    rw [List.sum_eq_zero_iff]
    simp only [List.mem_map, forall_exists_index, and_imp, forall_apply_eq_imp_iff₂]
    apply forall₂_congr
    intro region _
    have pages : privateBytes vmPageSize region = 0 ↔ region.info.privatePagesResident = 0 := by
      rw [privateBytes, Nat.mul_eq_zero, ← UInt32.toNat_inj]
      simp only [UInt32.toNat_zero]
      omega
    by_cases counted : CountsPrivate region.info
    · simp [counted]
    · simp [counted, pages]
  rw [← dropped, realPrivateMemory_toNat space vmPageSize fits, residentPrivateBytes_eq, split]
  omega

/-- A private mapping of a file that another task maps too, after three of its sixteen
pages were written: three copied pages, thirteen shared ones. -/
def cowMapping : AddressSpace where
  regions := [⟨0x100000000, 0x10000, ⟨2, 3, 13, SM_COW⟩⟩]
  ascending := ⟨by decide, by decide⟩
  fits := by decide

def idleVmInfo : TaskVmInfo := ⟨0, 0, 0, 0, 0, 0, 0⟩

theorem printMemoryInfo_private_exact_cowMapping :
    ∃ info, printMemoryInfo (steadyKernel cowMapping 4096 idleVmInfo) 2 = some (.ok info) ∧
      (info.totals.realPrivateMemory.toNat = residentPrivateBytes cowMapping 4096 ↔
        ∀ region ∈ cowMapping.regions, region.info.privatePagesResident ≠ 0 →
          CountsPrivate region.info) :=
  printMemoryInfo_private_exact_iff cowMapping 4096 idleVmInfo 2 (by decide) (by decide) (by decide)

/-- The three copied pages are resident and private to the task, but not in the figure. -/
theorem cowMapping_private_dropped :
    ∃ info, printMemoryInfo (steadyKernel cowMapping 4096 idleVmInfo) 2 = some (.ok info) ∧
      info.totals.realPrivateMemory.toNat = 0 ∧ residentPrivateBytes cowMapping 4096 = 3 * 4096 :=
  ⟨_, rfl, by decide, by decide⟩

end MemoryDemo.Mach.RealPrivateMemory
