import Mathlib.Algebra.Order.Ring.Nat
import MemoryDemo.Library.CursorWalk

/-! Counting loops `for (size_t i = 0; i < size; i += step)` on 64-bit words, as walks of a
cursor: the indices that the body sees, and where the loop ends. -/

namespace MemoryDemo.Library.Stride
open CursorWalk

/-- The loop goes on as long as the index is below the size. -/
def stride (size step : UInt64) : Source UInt64 UInt64 where
  query _ index := if index < size then some index else none
  next index := index + step

/-- The indices from 0; `none` means that the rounds did not suffice. -/
def indices (size step : UInt64) (rounds : Nat) : Option (List UInt64) :=
  (visits (stride size step) rounds 0 0).map Stop.state

theorem stride_some {size step index answer : UInt64} {calls : Nat}
    (given : (stride size step).query calls index = some answer) :
    answer = index ∧ index < size := by
  simp only [stride, Option.ite_none_right_eq_some, Option.some.injEq] at given
  exact ⟨given.2.symm, given.1⟩

theorem stride_none {size step index : UInt64} {calls : Nat}
    (silent : (stride size step).query calls index = none) : size ≤ index := by
  simp only [stride, ite_eq_right_iff, reduceCtorEq, imp_false] at silent
  exact UInt64.not_lt.mp silent

theorem next_toNat {size step index : UInt64} (below : index < size)
    (bounded : size.toNat + step.toNat ≤ 2 ^ 64) :
    (index + step).toNat = index.toNat + step.toNat := by
  rw [UInt64.lt_iff_toNat_lt] at below
  rw [UInt64.toNat_add]
  exact Nat.mod_eq_of_lt (by omega)

/-- As long as no index wraps, a loop sees the multiples of its step that lie below its
size, counted from where it starts. -/
theorem mem_of_serves {size step : UInt64}
    (bounded : size.toNat + step.toNat ≤ 2 ^ 64) {calls : Nat} {start last : UInt64}
    {seen : List UInt64} (served : Serves (stride size step) calls start seen last)
    (index : UInt64) :
    index ∈ seen ↔
      index < size ∧ ∃ rounds, index.toNat = start.toNat + step.toNat * rounds := by
  induction served with
  | fails silent =>
    have beyond := stride_none silent
    rw [UInt64.le_iff_toNat_le] at beyond
    constructor
    · intro member
      cases member
    · rintro ⟨below, rounds, same⟩
      rw [UInt64.lt_iff_toNat_lt] at below
      omega
  | @answers calls start last answer rest given later ih =>
    obtain ⟨rfl, below⟩ := stride_some given
    have next : ((stride size step).next answer).toNat = answer.toNat + step.toNat :=
      next_toNat below bounded
    rw [List.mem_cons, ih, next]
    constructor
    · rintro (rfl | ⟨inside, rounds, same⟩)
      · exact ⟨below, 0, by omega⟩
      · exact ⟨inside, rounds + 1, by rw [same, Nat.mul_succ]; omega⟩
    · rintro ⟨inside, rounds, same⟩
      cases rounds with
      | zero => exact Or.inl (UInt64.toNat_inj.mp (by omega))
      | succ rounds => exact Or.inr ⟨inside, rounds, by rw [same, Nat.mul_succ]; omega⟩

/-- Every step moves the index up, so a loop whose index does not wrap comes to its end. -/
theorem serves_of_bounded (size step : UInt64) (positive : 0 < step.toNat)
    (bounded : size.toNat + step.toNat ≤ 2 ^ 64) :
    ∃ seen last, Serves (stride size step) 0 0 seen last ∧
      seen.length ≤ size.toNat / step.toNat + 1 := by
  -- the rank counts whole steps
  have climbs : ∀ calls index answer, (stride size step).query calls index = some answer →
      index.toNat / step.toNat < ((stride size step).next answer).toNat / step.toNat ∧
        ((stride size step).next answer).toNat / step.toNat ≤ size.toNat / step.toNat + 1 := by
    intro calls index answer given
    obtain ⟨rfl, below⟩ := stride_some given
    have next : ((stride size step).next answer).toNat = answer.toNat + step.toNat :=
      next_toNat below bounded
    rw [UInt64.lt_iff_toNat_lt] at below
    rw [next, Nat.add_div_right _ positive]
    exact ⟨Nat.lt_succ_self _, Nat.succ_le_succ (Nat.div_le_div_right below.le)⟩
  obtain ⟨seen, last, served, few⟩ := serves_of_rank (stride size step)
    (fun index => index.toNat / step.toNat) (size.toNat / step.toNat + 1) climbs 0 0
  exact ⟨seen, last, served, few.trans (Nat.sub_le _ _)⟩

theorem indices_of_bounded {size step : UInt64} (positive : 0 < step.toNat)
    (bounded : size.toNat + step.toNat ≤ 2 ^ 64) {rounds : Nat}
    (enough : size.toNat / step.toNat + 1 < rounds) :
    ∃ seen, indices size step rounds = some seen ∧
      ∀ index, index ∈ seen ↔ index < size ∧ step.toNat ∣ index.toNat := by
  obtain ⟨seen, last, served, few⟩ := serves_of_bounded size step positive bounded
  refine ⟨seen, ?_, fun index => ?_⟩
  · rw [indices, visits_of_serves _ served rounds (lt_of_le_of_lt few enough)]
    rfl
  · rw [mem_of_serves bounded served]
    simp only [UInt64.toNat_zero, Nat.zero_add]
    rfl

/-- The indices as numbers; only an index that wraps outlasts the rounds. -/
def offsets (size step : UInt64) : Option (List Nat) :=
  (indices size step (size.toNat / step.toNat + 2)).map (List.map UInt64.toNat)

theorem offsets_of_bounded {size step : UInt64} (positive : 0 < step.toNat)
    (bounded : size.toNat + step.toNat ≤ 2 ^ 64) :
    ∃ seen, offsets size step = some seen ∧
      ∀ index, index ∈ seen ↔ index < size.toNat ∧ step.toNat ∣ index := by
  obtain ⟨words, walked, member⟩ := indices_of_bounded positive bounded (Nat.lt_succ_self _)
  refine ⟨words.map UInt64.toNat, by rw [offsets, walked]; rfl, fun index => ?_⟩
  constructor
  · intro among
    obtain ⟨word, inside, rfl⟩ := List.mem_map.mp among
    obtain ⟨below, multiple⟩ := (member word).mp inside
    exact ⟨UInt64.lt_iff_toNat_lt.mp below, multiple⟩
  · rintro ⟨below, multiple⟩
    have exact : (UInt64.ofNat index).toNat = index :=
      UInt64.toNat_ofNat_of_lt' (by have := size.toNat_lt; rw [UInt64.size]; omega)
    refine List.mem_map.mpr ⟨UInt64.ofNat index, (member _).mpr ⟨?_, ?_⟩, exact⟩
    · rwa [UInt64.lt_iff_toNat_lt, exact]
    · rw [exact]
      exact multiple

end MemoryDemo.Library.Stride
