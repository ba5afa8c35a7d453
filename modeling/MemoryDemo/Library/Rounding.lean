import Mathlib.Algebra.Order.Round
import Mathlib.Tactic.Linarith

/-! Rounding to a nearest integer, with nothing said about which of two equally near ones. -/

namespace MemoryDemo.Library.Rounding

/-- A choice of a nearest integer for every number. -/
structure Nearest (K : Type*) [Field K] [LinearOrder K] [IsStrictOrderedRing K] where
  round : K → ℤ
  near : ∀ value, |(round value : K) - value| ≤ 1 / 2

variable {K : Type*} [Field K] [LinearOrder K] [IsStrictOrderedRing K]

/-- A tie goes to the even neighbour. -/
def halfEven [FloorRing K] (value : K) : ℤ :=
  if 2 * Int.fract value < 1 then ⌊value⌋
  else if 2 * Int.fract value = 1 then ⌊value⌋ + ⌊value⌋ % 2
  else ⌊value⌋ + 1

theorem halfEven_near [FloorRing K] (value : K) : |(halfEven value : K) - value| ≤ 1 / 2 := by
  have split := Int.floor_add_fract value
  have low := Int.fract_nonneg value
  have high := Int.fract_lt_one value
  unfold halfEven
  split
  next below =>
    rw [abs_le]
    constructor <;> linarith
  next above =>
    split
    next tie =>
      cases Int.emod_two_eq_zero_or_one ⌊value⌋ with
      | inl even =>
        rw [even, add_zero, abs_le]
        constructor <;> linarith
      | inr odd =>
        rw [odd, Int.cast_add, Int.cast_one, abs_le]
        constructor <;> linarith
    next apart =>
      rw [Int.cast_add, Int.cast_one, abs_le]
      constructor <;> linarith

/-- Round half to even. -/
def Nearest.even [FloorRing K] : Nearest K :=
  ⟨halfEven, halfEven_near⟩

/-- A sum of integers, each as near to its number as a nearest one. -/
theorem sum_near {β : Type*} {integer : β → ℤ} {number : β → K}
    (near : ∀ item, |(integer item : K) - number item| ≤ 1 / 2) (items : List β) :
    |((items.map integer).sum : K) - (items.map number).sum| ≤ items.length / 2 := by
  induction items with
  | nil => simp
  | cons item rest ih =>
    have head := abs_le.mp (near item)
    have tail := abs_le.mp ih
    rw [abs_le, List.map_cons, List.map_cons, List.sum_cons, List.sum_cons, List.length_cons,
      Int.cast_add, Nat.cast_add, Nat.cast_one, add_div]
    constructor <;> linarith

/-- Integers near to two numbers that are equal, or far apart, tell which of the two it is. -/
theorem near_iff {first second slack : ℤ} {number number' : K}
    (near : |((first - second : ℤ) : K) - (number - number')| ≤ slack)
    (apart : number ≠ number' → 2 * (slack : K) < |number - number'|) :
    |first - second| ≤ slack ↔ number = number' := by
  constructor
  · intro close
    by_contra differ
    have gap := apart differ
    have close' : |((first - second : ℤ) : K)| ≤ slack := by exact_mod_cast close
    have triangle := abs_sub_abs_le_abs_sub (number - number') ((first - second : ℤ) : K)
    rw [abs_sub_comm] at near
    linarith
  · intro same
    rw [same, sub_self, sub_zero] at near
    exact_mod_cast near

namespace Nearest
variable (rounding : Nearest K)

theorem round_mono {first second : K} (le : first ≤ second) :
    rounding.round first ≤ rounding.round second := by
  by_contra! more
  have gap : (rounding.round second : K) + 1 ≤ rounding.round first := by exact_mod_cast more
  have above := (abs_le.mp (rounding.near first)).2
  have below := (abs_le.mp (rounding.near second)).1
  -- both lie halfway between the same two integers, so they are one number
  have same : first = second := by linarith
  rw [same] at more
  exact lt_irrefl _ more

theorem round_intCast (value : ℤ) : rounding.round (value : K) = value := by
  have near := rounding.near (value : K)
  rw [← Int.cast_sub, ← Int.cast_abs] at near
  have less : ((|rounding.round (value : K) - value| : ℤ) : K) < (1 : ℤ) := by
    rw [Int.cast_one]
    linarith
  have zero := Int.abs_lt_one_iff.mp (Int.cast_lt.mp less)
  exact sub_eq_zero.mp zero

theorem round_le_of_le (value : K) (bound : ℤ) (le : value ≤ bound) :
    rounding.round value ≤ bound := by
  rw [← rounding.round_intCast (K := K) bound]
  exact rounding.round_mono le

theorem le_round_of_le (value : K) (bound : ℤ) (le : (bound : K) ≤ value) :
    bound ≤ rounding.round value := by
  rw [← rounding.round_intCast (K := K) bound]
  exact rounding.round_mono le

/-- Less than half below an integer is rounded up to it at least. -/
theorem le_round_of_half_lt (value : K) (bound : ℤ) (less : (bound : K) - 1 / 2 < value) :
    bound ≤ rounding.round value := by
  have below := (abs_le.mp (rounding.near value)).1
  have close : ((bound - 1 : ℤ) : K) < (rounding.round value : ℤ) := by
    rw [Int.cast_sub, Int.cast_one]
    linarith
  have order := Int.cast_lt.mp close
  omega

/-- More than half below an integer is not rounded up to it. -/
theorem round_lt_of_lt_half (value : K) (bound : ℤ) (less : value < (bound : K) - 1 / 2) :
    rounding.round value < bound := by
  have above := (abs_le.mp (rounding.near value)).2
  have close : (rounding.round value : K) < (bound : ℤ) := by linarith
  exact Int.cast_lt.mp close

end Nearest

end MemoryDemo.Library.Rounding
