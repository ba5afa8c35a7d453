import Mathlib.Algebra.Order.Field.Basic
import Mathlib.Data.Rat.Cast.Order
import Mathlib.Tactic.Linarith
import MemoryDemo.System.Pressure

/-! The percentage that `GetSystemMemoryPressure` returns, as a function of the counters. -/

namespace MemoryDemo.System.PressurePercentage
open Statistics Pressure

/-- The pages that are wired down or taken by the compressor. -/
def pressurePages (stat : VmStatistics64) : Nat :=
  stat.wireCount.toNat + stat.compressorPageCount.toNat

/-- The other pages that the denominator counts. -/
def relievedPages (stat : VmStatistics64) : Nat :=
  stat.activeCount.toNat + stat.inactiveCount.toNat + stat.speculativeCount.toNat +
    stat.freeCount.toNat

theorem denominatorPages_eq (stat : VmStatistics64) :
    denominatorPages stat = pressurePages stat + relievedPages stat := by
  simp only [denominatorPages, pressurePages, relievedPages]
  omega

theorem pressure_toInt (stat : VmStatistics64) (pageSize : PageSize)
    (fits : denominatorPages stat < 2 ^ 32) :
    (pressure stat pageSize).toInt = (pressurePages stat : Int) * pageSize.bytes.toNat := by
  refine (pageBytes_eq_iff _ pageSize _).mpr ?_
  simp only [denominatorPages] at fits
  rw [(add_toNat_iff _ _).mpr (by omega)]
  exact (Int.natCast_add _ _).symm

/-- The used bytes cancel and the page size does: what is left is a share of pages. -/
theorem percentage_eq (stat : VmStatistics64) (pageSize : PageSize)
    (fits : denominatorPages stat < 2 ^ 32) :
    percentage stat pageSize = (pressurePages stat : Rat) / denominatorPages stat * 100 := by
  have nonzero : (pageSize.bytes.toNat : Rat) ≠ 0 := by
    have positive := pageSize.positive
    exact_mod_cast Nat.ne_of_gt positive
  rw [percentage, pressure_toInt stat pageSize fits, denominator_toInt stat pageSize fits]
  push_cast
  rw [mul_div_mul_right _ _ nonzero]

theorem share_mono {part rest part' rest' : Nat} (more : part ≤ part') (less : rest' ≤ rest)
    (total : 0 < part + rest) (total' : 0 < part' + rest') :
    (part : Rat) / (part + rest : Nat) ≤ part' / (part' + rest' : Nat) := by
  rw [div_le_div_iff₀ (by exact_mod_cast total) (by exact_mod_cast total')]
  have crossed : part * (part' + rest') ≤ part' * (part + rest) :=
    calc part * (part' + rest') = part * part' + part * rest' := Nat.mul_add _ _ _
      _ ≤ part * part' + part' * rest := Nat.add_le_add_left (Nat.mul_le_mul more less) _
      _ = part' * (part + rest) := by rw [Nat.mul_add, Nat.mul_comm part part']
  exact_mod_cast crossed

theorem percentage_bounds (stat : VmStatistics64) (pageSize : PageSize)
    (counted : 0 < denominatorPages stat) (fits : denominatorPages stat < 2 ^ 32) :
    0 ≤ percentage stat pageSize ∧ percentage stat pageSize ≤ 100 := by
  have share : (pressurePages stat : Rat) / denominatorPages stat ≤ 1 := by
    rw [div_le_one (by exact_mod_cast counted)]
    exact_mod_cast (denominatorPages_eq stat).symm ▸ Nat.le_add_right _ _
  have positive : (0 : Rat) ≤ pressurePages stat / denominatorPages stat :=
    div_nonneg (Nat.cast_nonneg _) (Nat.cast_nonneg _)
  rw [percentage_eq stat pageSize fits]
  constructor <;> linarith

/-- The second snapshot is under at least the pressure of the first: no fewer wired or
compressor pages, no more of the others. -/
structure Presses (first second : VmStatistics64) : Prop where
  wire : first.wireCount ≤ second.wireCount
  compressor : first.compressorPageCount ≤ second.compressorPageCount
  active : second.activeCount ≤ first.activeCount
  inactive : second.inactiveCount ≤ first.inactiveCount
  speculative : second.speculativeCount ≤ first.speculativeCount
  free : second.freeCount ≤ first.freeCount

theorem percentage_mono {first second : VmStatistics64} (presses : Presses first second)
    (firstSize secondSize : PageSize)
    (counted : 0 < denominatorPages first) (fits : denominatorPages first < 2 ^ 32)
    (counted' : 0 < denominatorPages second) (fits' : denominatorPages second < 2 ^ 32) :
    percentage first firstSize ≤ percentage second secondSize := by
  obtain ⟨wire, compressor, active, inactive, speculative, free⟩ := presses
  rw [UInt32.le_iff_toNat_le] at wire compressor active inactive speculative free
  have more : pressurePages first ≤ pressurePages second := Nat.add_le_add wire compressor
  have less : relievedPages second ≤ relievedPages first := by
    simp only [relievedPages]
    omega
  rw [denominatorPages_eq] at counted counted'
  have shares := share_mono more less counted counted'
  rw [percentage_eq first firstSize fits, percentage_eq second secondSize fits',
    denominatorPages_eq, denominatorPages_eq]
  linarith

/-- What a run returns for a snapshot. -/
def outcome (stat : VmStatistics64) (pageSize : PageSize) (swapUsed : UInt64) : Outcome :=
  (getSystemMemoryPressure ⟨some pageSize, some stat, some swapUsed⟩).2

/-- The percentage lies between 0 and 100, is the same for all purgeable and external
counts, and does not fall when the pressure rises. -/
theorem getSystemMemoryPressure_percentage (stat : VmStatistics64) (pageSize : PageSize)
    (swapUsed : UInt64) (counted : 0 < denominatorPages stat)
    (fits : denominatorPages stat < 2 ^ 32) :
    ∃ percent : Rat, outcome stat pageSize swapUsed = .returned percent ∧
      0 ≤ percent ∧ percent ≤ 100 ∧
      (∀ purgeable external : UInt32,
        outcome { stat with purgeableCount := purgeable, externalPageCount := external } pageSize
          swapUsed = .returned percent) ∧
      ∀ (other : VmStatistics64) (otherSize : PageSize) (otherSwap : UInt64) (percent' : Rat),
        0 < denominatorPages other → denominatorPages other < 2 ^ 32 →
          outcome other otherSize otherSwap = .returned percent' →
            (Presses stat other → percent ≤ percent') ∧
              (Presses other stat → percent' ≤ percent) := by
  obtain ⟨low, high⟩ := percentage_bounds stat pageSize counted fits
  refine ⟨percentage stat pageSize, rfl, low, high, ?_, ?_⟩
  · intro purgeable external
    -- neither count occurs in the share of pages that the percentage is
    have kept : percentage { stat with purgeableCount := purgeable, externalPageCount := external }
        pageSize = percentage stat pageSize :=
      (percentage_eq _ pageSize (by exact fits)).trans (percentage_eq stat pageSize fits).symm
    exact congrArg Outcome.returned kept
  · intro other otherSize otherSwap percent' counted' fits' returned
    cases returned
    exact ⟨fun presses => percentage_mono presses _ _ counted fits counted' fits',
      fun presses => percentage_mono presses _ _ counted' fits' counted fits⟩

theorem getSystemMemoryPressure_percentage_small :
    ∃ percent : Rat, outcome (smallSnapshot 1) page4096 0 = .returned percent ∧
      0 ≤ percent ∧ percent ≤ 100 ∧
      (∀ purgeable external : UInt32,
        outcome { smallSnapshot 1 with purgeableCount := purgeable, externalPageCount := external }
          page4096 0 = .returned percent) ∧
      ∀ (other : VmStatistics64) (otherSize : PageSize) (otherSwap : UInt64) (percent' : Rat),
        0 < denominatorPages other → denominatorPages other < 2 ^ 32 →
          outcome other otherSize otherSwap = .returned percent' →
            (Presses (smallSnapshot 1) other → percent ≤ percent') ∧
              (Presses other (smallSnapshot 1) → percent' ≤ percent) :=
  getSystemMemoryPressure_percentage (smallSnapshot 1) page4096 0 (by decide) (by decide)

end MemoryDemo.System.PressurePercentage
