import Mathlib.Algebra.Order.Ring.Nat
import Mathlib.Data.Finset.Insert

/-! The grid of pages over the natural numbers: the pages that a buffer overlaps, and the
pages that a loop over the buffer with a fixed stride hits. -/

namespace MemoryDemo.Library.PageGrid

/-- Some byte of the buffer lies on the page. -/
def Overlaps (pageSize base size page : Nat) : Prop :=
  page * pageSize < base + size ∧ base < (page + 1) * pageSize

/-- Some byte at a multiple of the stride lies on the page. -/
def Hits (pageSize base size step page : Nat) : Prop :=
  ∃ index, (index < size ∧ step ∣ index) ∧ (base + index) / pageSize = page

/-- A write makes the page of its address resident. -/
def touch (pageSize : Nat) (resident : Finset Nat) (address : Nat) : Finset Nat :=
  insert (address / pageSize) resident

theorem mem_foldl_touch (pageSize : Nat) (addresses : List Nat) (resident : Finset Nat)
    (page : Nat) :
    page ∈ addresses.foldl (touch pageSize) resident ↔
      page ∈ resident ∨ ∃ address ∈ addresses, address / pageSize = page := by
  induction addresses generalizing resident with
  | nil => simp only [List.foldl_nil, List.not_mem_nil, false_and, exists_false, or_false]
  | cons address rest ih =>
    rw [List.foldl_cons, ih, touch, Finset.mem_insert, List.exists_mem_cons_iff, eq_comm,
      or_comm (b := page ∈ resident), or_assoc]

section
variable {pageSize size step : Nat} (base : Nat)

theorem overlaps_iff (grid : 0 < pageSize) (nonempty : 0 < size) (page : Nat) :
    Overlaps pageSize base size page ↔
      base / pageSize ≤ page ∧ page ≤ (base + size - 1) / pageSize := by
  rw [Overlaps, Nat.le_div_iff_mul_le grid, ← Nat.lt_succ_iff (m := base / pageSize),
    Nat.div_lt_iff_lt_mul grid, Nat.succ_eq_add_one]
  omega

/-- The first multiple of the stride that does not lie in front of a bound. -/
theorem exists_multiple (positive : 0 < step) (bound : Nat) :
    ∃ round, bound ≤ step * round ∧ step * round < bound + step := by
  have ceiling := Nat.div_add_mod (bound + step - 1) step
  have short := Nat.mod_lt (bound + step - 1) positive
  exact ⟨(bound + step - 1) / step, by omega, by omega⟩

/-- A stride of at most a page skips no page between the first index and the last. -/
theorem hits_iff (positive : 0 < step) (fine : step ≤ pageSize) (whole : step ∣ size)
    (nonempty : 0 < size) (page : Nat) :
    Hits pageSize base size step page ↔
      base / pageSize ≤ page ∧ page ≤ (base + size - step) / pageSize := by
  have grid : 0 < pageSize := Nat.lt_of_lt_of_le positive fine
  have short : step ≤ size := Nat.le_of_dvd nonempty whole
  constructor
  · rintro ⟨index, ⟨inside, multiple⟩, rfl⟩
    have last : step ≤ size - index :=
      Nat.le_of_dvd (Nat.sub_pos_of_lt inside) (Nat.dvd_sub whole multiple)
    exact ⟨Nat.div_le_div_right (Nat.le_add_right ..), Nat.div_le_div_right (by omega)⟩
  · rintro ⟨first, last⟩
    rw [Nat.le_div_iff_mul_le grid] at last
    by_cases start : page * pageSize ≤ base
    · -- the page of the first byte
      refine ⟨0, ⟨nonempty, Nat.dvd_zero step⟩, ?_⟩
      rw [Nat.add_zero]
      exact Nat.le_antisymm first ((Nat.le_div_iff_mul_le grid).mpr start)
    · obtain ⟨round, behind, close⟩ := exists_multiple positive (page * pageSize - base)
      refine ⟨step * round, ⟨by omega, Nat.dvd_mul_right ..⟩, ?_⟩
      apply Nat.div_eq_of_lt_le
      · omega
      · rw [Nat.succ_mul]
        omega

/-- How far the bytes in front of an end reach into their last page. -/
theorem last_page_start (grid : 0 < pageSize) {ending : Nat} (positive : 0 < ending) :
    (ending - 1) / pageSize * pageSize +
      (if ending % pageSize = 0 then pageSize else ending % pageSize) = ending := by
  have split := Nat.div_add_mod ending pageSize
  have below := Nat.mod_lt ending grid
  generalize ending / pageSize = pages at split
  by_cases even : ending % pageSize = 0
  · -- the end is the start of a page
    rw [even, Nat.add_zero] at split
    have paged : 0 < pages := Nat.pos_of_mul_pos_left (split ▸ positive)
    have same : (ending - 1) / pageSize = pages - 1 := by
      apply Nat.div_eq_of_lt_le
      · rw [Nat.sub_mul, Nat.one_mul, Nat.mul_comm]
        omega
      · rw [Nat.sub_add_cancel paged, Nat.mul_comm]
        omega
    rw [if_pos even, same, ← Nat.succ_mul, Nat.succ_eq_add_one, Nat.sub_add_cancel paged,
      Nat.mul_comm, split]
  · have same : (ending - 1) / pageSize = pages := by
      apply Nat.div_eq_of_lt_le
      · rw [Nat.mul_comm]
        omega
      · rw [Nat.succ_mul, Nat.mul_comm]
        omega
    rw [if_neg even, same, Nat.mul_comm, split]

/-- The loop reaches every page of the buffer exactly if its last index lies on the same
page as the last byte. -/
theorem covers_iff (positive : 0 < step) (fine : step ≤ pageSize) (whole : step ∣ size)
    (nonempty : 0 < size) :
    (∀ page, Overlaps pageSize base size page → Hits pageSize base size step page) ↔
      (base + size) % pageSize = 0 ∨ step ≤ (base + size) % pageSize := by
  have grid : 0 < pageSize := Nat.lt_of_lt_of_le positive fine
  have short : step ≤ size := Nat.le_of_dvd nonempty whole
  have last : (∀ page, Overlaps pageSize base size page → Hits pageSize base size step page) ↔
      (base + size - 1) / pageSize ≤ (base + size - step) / pageSize := by
    simp only [overlaps_iff base grid nonempty, hits_iff base positive fine whole nonempty]
    constructor
    · intro covers
      exact (covers _ ⟨Nat.div_le_div_right (by omega), Nat.le_refl _⟩).2
    · rintro reach page ⟨first, inside⟩
      exact ⟨first, inside.trans reach⟩
  rw [last, Nat.le_div_iff_mul_le grid]
  have start := last_page_start grid (Nat.lt_of_lt_of_le nonempty (Nat.le_add_left size base))
  by_cases even : (base + size) % pageSize = 0
  · rw [if_pos even] at start
    omega
  · rw [if_neg even] at start
    omega

end

end MemoryDemo.Library.PageGrid
