import Mathlib.Data.Rat.Floor
import Mathlib.Tactic.FieldSimp
import Mathlib.Tactic.Ring
import MemoryDemo.Library.Rounding

/-! `formatMemorySize`, which `macos/process/memory_info.cc` and
`windows/process/process_memory_monitor.cpp` define alike. The sizes are the exact quotients
that a double holds below 2^53; `%.2f` rounds to a nearest hundredth. -/

namespace MemoryDemo.Common.FormatMemorySize
open Library.Rounding

/-- A number of bytes that a double holds exactly. -/
structure ByteCount where
  bytes : UInt64
  exact : bytes.toNat < 2 ^ 53
  deriving DecidableEq

def units : List (List Char) :=
  [['B'], ['K', 'B'], ['M', 'B'], ['G', 'B']]

/-- `while (size >= 1024.0 && unitIndex < 3) { size /= 1024.0; unitIndex++; }` -/
def scale (size : Rat) (unitIndex : Nat) : Rat × Nat :=
  if 1024 ≤ size ∧ unitIndex < 3 then scale (size / 1024) (unitIndex + 1)
  else (size, unitIndex)
termination_by 3 - unitIndex

/-- `%.2f` of a number that is not negative, given in hundredths. -/
def fixed (hundredths : Nat) : List Char :=
  Nat.toDigits 10 (hundredths / 100) ++
    ['.', Nat.digitChar (hundredths / 10 % 10), Nat.digitChar (hundredths % 10)]

/-- `snprintf(buffer, bufferSize, "%.2f %s", size, unit)`, what the buffer holds of it. -/
def snprintf (bufferSize hundredths : Nat) (unit : List Char) : List Char :=
  (fixed hundredths ++ ' ' :: unit).take (bufferSize - 1)

def formatMemorySize (rounding : Nearest Rat) (count : ByteCount) : List Char :=
  let scaled := scale count.bytes.toNat 0
  snprintf 32 (rounding.round (100 * scaled.1)).toNat (units.getD scaled.2 [])

/-- What a printed text says. -/
structure Printed where
  hundredths : Nat
  unitIndex : Nat
  deriving DecidableEq, Repr

def Printed.value (printed : Printed) : Rat :=
  printed.hundredths / 100 * 1024 ^ printed.unitIndex

/-- Reads digits, a point, two digits, a blank and the name of a unit. -/
def readText (text : List Char) : Option Printed :=
  match text.span Char.isDigit with
  | (whole, '.' :: tenth :: hundredth :: ' ' :: unit) =>
    if whole ≠ [] ∧ tenth.isDigit ∧ hundredth.isDigit then
      (units.findIdx? (· == unit)).map fun unitIndex =>
        ⟨Nat.ofDigitChars 10 (whole ++ [tenth, hundredth]) 0, unitIndex⟩
    else none
  | _ => none

/-- The names of the units are short, and each is found where it stands. -/
theorem units_spec : ∀ unitIndex < 4, (units.getD unitIndex []).length ≤ 2 ∧
    units.findIdx? (· == units.getD unitIndex []) = some unitIndex := by
  decide

theorem isDigit_digitChar : ∀ digit < 10, (Nat.digitChar digit).isDigit = true := by
  decide

/-- The buffer is long enough for a number of up to 25 digits in front of the point. -/
theorem snprintf_fits {hundredths : Nat} (short : hundredths / 100 < 10 ^ 25) {unit : List Char}
    (name : unit.length ≤ 2) : snprintf 32 hundredths unit = fixed hundredths ++ ' ' :: unit := by
  have digits : (Nat.toDigits 10 (hundredths / 100)).length ≤ 25 :=
    (Nat.length_toDigits_le_iff (by decide) (by decide)).mpr short
  rw [snprintf, fixed]
  apply List.take_of_length_le
  simp only [List.length_append, List.length_cons, List.length_nil]
  omega

theorem ofDigitChars_fixed (hundredths : Nat) :
    Nat.ofDigitChars 10 (Nat.toDigits 10 (hundredths / 100) ++
      [Nat.digitChar (hundredths / 10 % 10), Nat.digitChar (hundredths % 10)]) 0 = hundredths := by
  rw [Nat.ofDigitChars_append, Nat.ofDigitChars_ten_toDigits,
    Nat.ofDigitChars_cons_digitChar_of_lt_ten (Nat.mod_lt _ (by decide)),
    Nat.ofDigitChars_cons_digitChar_of_lt_ten (Nat.mod_lt _ (by decide)), Nat.ofDigitChars_nil]
  omega

/-- What is printed reads back as it was. -/
theorem readText_snprintf {hundredths unitIndex : Nat} (short : hundredths / 100 < 10 ^ 25)
    (inside : unitIndex < 4) :
    readText (snprintf 32 hundredths (units.getD unitIndex [])) = some ⟨hundredths, unitIndex⟩ := by
  obtain ⟨name, found⟩ := units_spec unitIndex inside
  have isDigit : ∀ char ∈ Nat.toDigits 10 (hundredths / 100), char.isDigit = true :=
    fun char member => Nat.isDigit_of_mem_toDigits (by decide) (by decide) member
  have point : Char.isDigit '.' = false := by decide
  rw [snprintf_fits short name, fixed, List.append_assoc, readText,
    List.span_eq_takeWhile_dropWhile, List.takeWhile_append_of_pos isDigit,
    List.dropWhile_append_of_pos isDigit]
  simp only [List.cons_append, List.nil_append, List.takeWhile_cons, List.dropWhile_cons, point,
    Bool.false_eq_true, ↓reduceIte, List.append_nil]
  rw [if_pos ⟨Nat.toDigits_ne_nil, isDigit_digitChar _ (Nat.mod_lt _ (by decide)),
    isDigit_digitChar _ (Nat.mod_lt _ (by decide))⟩, found, ofDigitChars_fixed]
  rfl

/-- What the loop has reached: the size in its unit. -/
structure Scaled (total : Rat) (result : Rat × Nat) : Prop where
  unit_le : result.2 ≤ 3
  exact : result.1 * 1024 ^ result.2 = total
  least : result.2 = 0 ∨ 1 ≤ result.1
  below : result.2 < 3 → result.1 < 1024

/-- Every round keeps the product of the size and the unit. -/
theorem scale_scaled (total size : Rat) (unitIndex : Nat) (unit_le : unitIndex ≤ 3)
    (exact : size * 1024 ^ unitIndex = total) (least : unitIndex = 0 ∨ 1 ≤ size) :
    Scaled total (scale size unitIndex) := by
  induction size, unitIndex using scale.induct with
  | case1 size unitIndex large ih =>
    rw [scale, if_pos large]
    apply ih large.2
    · rw [← exact, pow_succ]
      field_simp
    · right
      rw [le_div_iff₀ (by norm_num)]
      linarith [large.1]
  | case2 size unitIndex small =>
    rw [scale, if_neg small]
    refine ⟨unit_le, exact, least, fun more => ?_⟩
    by_contra! large
    exact small ⟨large, more⟩

theorem Scaled.of_count (count : ByteCount) :
    Scaled count.bytes.toNat (scale count.bytes.toNat 0) :=
  scale_scaled _ _ 0 (by decide) (by rw [pow_zero, mul_one]) (Or.inl rfl)

/-- The last unit that the bytes fill, of those there are. -/
structure UnitOf (bytes unitIndex : Nat) : Prop where
  unit_le : unitIndex ≤ 3
  filled : unitIndex = 0 ∨ 1024 ^ unitIndex ≤ bytes
  last : ∀ larger ≤ 3, 1024 ^ larger ≤ bytes → larger ≤ unitIndex

section
variable {total : Rat} {result : Rat × Nat}

theorem Scaled.size_nonneg (scaled : Scaled total result) (nonneg : 0 ≤ total) : 0 ≤ result.1 := by
  have product := scaled.exact
  by_contra! negative
  have below := mul_neg_of_neg_of_pos negative (show (0 : Rat) < 1024 ^ result.2 by positivity)
  linarith

theorem Scaled.size_le (scaled : Scaled total result) (nonneg : 0 ≤ total) : result.1 ≤ total := by
  rw [← scaled.exact]
  exact le_mul_of_one_le_right (scaled.size_nonneg nonneg) (one_le_pow₀ (by norm_num))

theorem Scaled.filled (scaled : Scaled total result) :
    result.2 = 0 ∨ 1024 ^ result.2 ≤ total := by
  cases scaled.least with
  | inl zero => exact Or.inl zero
  | inr one =>
    right
    rw [← scaled.exact]
    exact le_mul_of_one_le_left (by positivity) one

theorem Scaled.total_lt (scaled : Scaled total result) (more : result.2 < 3) :
    total < 1024 ^ (result.2 + 1) := by
  rw [← scaled.exact, pow_succ, mul_comm]
  exact mul_lt_mul_of_pos_left (scaled.below more) (by positivity)

end

theorem Scaled.unitOf {bytes : Nat} {result : Rat × Nat} (scaled : Scaled bytes result) :
    UnitOf bytes result.2 where
  unit_le := scaled.unit_le
  filled := by
    cases scaled.filled with
    | inl zero => exact Or.inl zero
    | inr most => exact Or.inr (by exact_mod_cast most)
  last := by
    intro larger in_units fits
    by_contra! more
    have less := scaled.total_lt (lt_of_lt_of_le more in_units)
    have power : 1024 ^ (result.2 + 1) ≤ 1024 ^ larger := Nat.pow_le_pow_right (by decide) more
    have less_nat : bytes < 1024 ^ (result.2 + 1) := by exact_mod_cast less
    omega

theorem UnitOf.mono {few many first second : Nat} (le : few ≤ many) (unitOf : UnitOf few first)
    (other : UnitOf many second) : first ≤ second := by
  cases unitOf.filled with
  | inl zero => rw [zero]; exact Nat.zero_le _
  | inr filled => exact other.last first unitOf.unit_le (filled.trans le)

/-- The number and the unit that `formatMemorySize` prints. -/
def printed (rounding : Nearest Rat) (count : ByteCount) : Printed :=
  let scaled := scale count.bytes.toNat 0
  ⟨(rounding.round (100 * scaled.1)).toNat, scaled.2⟩

section
variable (rounding : Nearest Rat) (count : ByteCount)

theorem printed_hundredths : ((printed rounding count).hundredths : Int) =
    rounding.round (100 * (scale count.bytes.toNat 0).1) := by
  have nonneg := (Scaled.of_count count).size_nonneg (Nat.cast_nonneg _)
  apply Int.toNat_of_nonneg
  apply rounding.le_round_of_le
  rw [Int.cast_zero]
  linarith

theorem readText_formatMemorySize :
    readText (formatMemorySize rounding count) = some (printed rounding count) := by
  have scaled := Scaled.of_count count
  apply readText_snprintf
  · have exact : (count.bytes.toNat : Rat) ≤ 2 ^ 53 := by exact_mod_cast count.exact.le
    have small : 100 * (scale count.bytes.toNat 0).1 ≤ ((100 * 2 ^ 53 : Int) : Rat) := by
      have size_le := scaled.size_le (Nat.cast_nonneg _)
      push_cast
      linarith
    have rounded := rounding.round_le_of_le _ _ small
    omega
  · exact Nat.lt_succ_of_le scaled.unit_le

theorem printed_hundredths_le (more : (printed rounding count).unitIndex < 3) :
    (printed rounding count).hundredths ≤ 102400 := by
  have below := (Scaled.of_count count).below more
  have rounded := rounding.round_le_of_le (100 * (scale count.bytes.toNat 0).1) 102400
    (by push_cast; linarith)
  rw [← printed_hundredths rounding count] at rounded
  exact Int.ofNat_le.mp rounded

theorem le_printed_hundredths (large : (printed rounding count).unitIndex ≠ 0) :
    100 ≤ (printed rounding count).hundredths := by
  have least := (Scaled.of_count count).least.resolve_left large
  have rounded := rounding.le_round_of_le (100 * (scale count.bytes.toNat 0).1) 100
    (by push_cast; linarith)
  rw [← printed_hundredths rounding count] at rounded
  exact Int.ofNat_le.mp rounded

end

/-- What a printed text has to do with the bytes. -/
structure Accurate (bytes : Nat) (printed : Printed) : Prop where
  unit : UnitOf bytes printed.unitIndex
  close : |printed.value - bytes| ≤ 5 / 1000 * 1024 ^ printed.unitIndex

theorem Printed.value_close (printed : Printed) {size : Rat}
    (near : |printed.hundredths - 100 * size| ≤ 1 / 2) :
    |printed.value - size * 1024 ^ printed.unitIndex| ≤ 5 / 1000 * 1024 ^ printed.unitIndex := by
  have unit : (0 : Rat) ≤ 1024 ^ printed.unitIndex := by positivity
  calc |printed.value - size * 1024 ^ printed.unitIndex|
      = |(printed.hundredths - 100 * size) / 100 * 1024 ^ printed.unitIndex| := by
        rw [Printed.value]
        congr 1
        ring
    _ = |printed.hundredths - 100 * size| / 100 * 1024 ^ printed.unitIndex := by
        rw [abs_mul, abs_div, abs_of_nonneg unit, abs_of_pos (by norm_num : (0 : Rat) < 100)]
    _ ≤ 5 / 1000 * 1024 ^ printed.unitIndex := by
        apply mul_le_mul_of_nonneg_right _ unit
        linarith

theorem accurate_printed (rounding : Nearest Rat) (count : ByteCount) :
    Accurate count.bytes.toNat (printed rounding count) := by
  have scaled := Scaled.of_count count
  refine ⟨scaled.unitOf, ?_⟩
  have near := rounding.near (100 * (scale count.bytes.toNat 0).1)
  rw [← printed_hundredths rounding count, Int.cast_natCast] at near
  rw [← scaled.exact]
  exact (printed rounding count).value_close near

theorem Printed.value_le_of_same {small large : Printed} (same : small.unitIndex = large.unitIndex)
    (le : small.hundredths ≤ large.hundredths) : small.value ≤ large.value := by
  have cast : (small.hundredths : Rat) ≤ large.hundredths := by exact_mod_cast le
  rw [Printed.value, Printed.value, same]
  apply mul_le_mul_of_nonneg_right _ (by positivity)
  linarith

/-- The whole number 1024 of a unit separates it from the larger units. -/
theorem Printed.value_le_of_less {small large : Printed} (less : small.unitIndex < large.unitIndex)
    (few : small.hundredths ≤ 102400) (many : 100 ≤ large.hundredths) :
    small.value ≤ large.value := by
  have few_cast : (small.hundredths : Rat) ≤ 102400 := by exact_mod_cast few
  have many_cast : (100 : Rat) ≤ large.hundredths := by exact_mod_cast many
  calc small.value
      ≤ 1024 * 1024 ^ small.unitIndex := by
        apply mul_le_mul_of_nonneg_right _ (by positivity)
        linarith
    _ = 1024 ^ (small.unitIndex + 1) := by rw [pow_succ, mul_comm]
    _ ≤ 1024 ^ large.unitIndex := pow_le_pow_right₀ (by norm_num) less
    _ ≤ large.value := by
        apply le_mul_of_one_le_left (by positivity)
        linarith

theorem printed_mono (rounding : Nearest Rat) {first second : ByteCount}
    (order : first.bytes ≤ second.bytes) :
    (printed rounding first).value ≤ (printed rounding second).value := by
  have few := Scaled.of_count first
  have many := Scaled.of_count second
  have le : first.bytes.toNat ≤ second.bytes.toNat := UInt64.le_iff_toNat_le.mp order
  have units_le := few.unitOf.mono le many.unitOf
  by_cases same : (printed rounding first).unitIndex = (printed rounding second).unitIndex
  · apply Printed.value_le_of_same same
    have sizes : (scale first.bytes.toNat 0).1 ≤ (scale second.bytes.toNat 0).1 := by
      have totals : (first.bytes.toNat : Rat) ≤ second.bytes.toNat := by exact_mod_cast le
      rw [← few.exact, ← many.exact] at totals
      change (scale first.bytes.toNat 0).2 = (scale second.bytes.toNat 0).2 at same
      rw [same] at totals
      exact le_of_mul_le_mul_right totals (by positivity)
    have rounded := rounding.round_mono
      (mul_le_mul_of_nonneg_left sizes (by norm_num : (0 : Rat) ≤ 100))
    rw [← printed_hundredths, ← printed_hundredths] at rounded
    exact Int.ofNat_le.mp rounded
  · have less : (printed rounding first).unitIndex < (printed rounding second).unitIndex :=
      lt_of_le_of_ne units_le same
    apply Printed.value_le_of_less less
    · exact printed_hundredths_le rounding first (lt_of_lt_of_le less many.unit_le)
    · exact le_printed_hundredths rounding second (Nat.ne_of_gt (Nat.zero_lt_of_lt less))

/-- The texts of two amounts are in the order of the amounts, and each is accurate. -/
theorem formatMemorySize_order (rounding : Nearest Rat) (first second : ByteCount)
    (order : first.bytes ≤ second.bytes) :
    ∃ small large, readText (formatMemorySize rounding first) = some small ∧
      readText (formatMemorySize rounding second) = some large ∧
      small.value ≤ large.value ∧ Accurate first.bytes.toNat small ∧
      Accurate second.bytes.toNat large :=
  ⟨_, _, readText_formatMemorySize rounding first, readText_formatMemorySize rounding second,
    printed_mono rounding order, accurate_printed rounding first,
    accurate_printed rounding second⟩

theorem formatMemorySize_order_kilobyte :
    (1023 : UInt64) ≤ 1048575 ∧
      ∃ small large, readText (formatMemorySize .even ⟨1023, by decide⟩) = some small ∧
        readText (formatMemorySize .even ⟨1048575, by decide⟩) = some large ∧
        small.value ≤ large.value ∧ Accurate 1023 small ∧ Accurate 1048575 large :=
  ⟨by decide, formatMemorySize_order .even ⟨1023, by decide⟩ ⟨1048575, by decide⟩ (by decide)⟩

/-- Below 1024 of a unit that has a larger one, and at least 1 of a unit that has a smaller. -/
structure Normalised (printed : Printed) : Prop where
  below : printed.unitIndex < 3 → printed.hundredths < 102400
  least : printed.unitIndex ≠ 0 → 100 ≤ printed.hundredths

/-- The number is below 1024.00 as long as the size is below the last half hundredth. -/
theorem printed_hundredths_lt_iff (rounding : Nearest Rat) (count : ByteCount) (unit : Nat)
    (positive : 0 < unit)
    (exact : (scale count.bytes.toNat 0).1 * unit = count.bytes.toNat)
    (apart : 200 * count.bytes.toNat ≠ 204799 * unit) :
    (printed rounding count).hundredths < 102400 ↔ 200 * count.bytes.toNat < 204799 * unit := by
  have rounded := printed_hundredths rounding count
  have unit_pos : (0 : Rat) < unit := by exact_mod_cast positive
  constructor
  · intro less
    by_contra! large
    have more : ((204799 * unit : Nat) : Rat) < (200 * count.bytes.toNat : Nat) := by
      exact_mod_cast lt_of_le_of_ne large apart.symm
    push_cast at more
    rw [← exact] at more
    have size : 204799 < 200 * (scale count.bytes.toNat 0).1 :=
      lt_of_mul_lt_mul_right (by linarith) unit_pos.le
    have up := rounding.le_round_of_half_lt (100 * (scale count.bytes.toNat 0).1) 102400
      (by push_cast; linarith)
    omega
  · intro small
    have less : ((200 * count.bytes.toNat : Nat) : Rat) < (204799 * unit : Nat) := by
      exact_mod_cast small
    push_cast at less
    rw [← exact] at less
    have size : 200 * (scale count.bytes.toNat 0).1 < 204799 :=
      lt_of_mul_lt_mul_right (by linarith) unit_pos.le
    have down := rounding.round_lt_of_lt_half (100 * (scale count.bytes.toNat 0).1) 102400
      (by push_cast; linarith)
    omega

/-- The least number of a unit is never missed, as rounding is monotone. -/
theorem normalised_iff_below (rounding : Nearest Rat) (count : ByteCount) :
    Normalised (printed rounding count) ↔ ((scale count.bytes.toNat 0).2 < 3 →
      (printed rounding count).hundredths < 102400) := by
  constructor
  · exact fun normalised => normalised.below
  · exact fun below => ⟨below, le_printed_hundredths rounding count⟩

/-- Only the half hundredths below 1024 KB and below 1024 MB reach 1024.00. -/
theorem normalised_printed_iff (rounding : Nearest Rat) (count : ByteCount) :
    Normalised (printed rounding count) ↔
      ¬ (1048571 ≤ count.bytes.toNat ∧ count.bytes.toNat ≤ 1048575) ∧
        ¬ (1073736582 ≤ count.bytes.toNat ∧ count.bytes.toNat ≤ 1073741823) := by
  have scaled := Scaled.of_count count
  have unitOf := scaled.unitOf
  have below : (scale count.bytes.toNat 0).2 < 3 →
      count.bytes.toNat < 1024 ^ ((scale count.bytes.toNat 0).2 + 1) := by
    intro more
    exact_mod_cast scaled.total_lt more
  have exact := scaled.exact
  have filled := unitOf.filled
  rw [normalised_iff_below]
  obtain zero | one | two | three : (scale count.bytes.toNat 0).2 = 0 ∨
      (scale count.bytes.toNat 0).2 = 1 ∨ (scale count.bytes.toNat 0).2 = 2 ∨
      (scale count.bytes.toNat 0).2 = 3 := by
    have unit_le := unitOf.unit_le
    omega
  · rw [zero] at below exact filled ⊢
    have lt_iff := printed_hundredths_lt_iff rounding count 1 (by decide)
      (by exact_mod_cast exact) (by omega)
    omega
  · rw [one] at below exact filled ⊢
    have lt_iff := printed_hundredths_lt_iff rounding count 1024 (by decide)
      (by exact_mod_cast exact) (by omega)
    omega
  · rw [two] at below exact filled ⊢
    have unit : (1024 : Rat) ^ 2 = 1048576 := by norm_num
    rw [unit] at exact
    have lt_iff := printed_hundredths_lt_iff rounding count 1048576 (by decide)
      (by exact_mod_cast exact) (by omega)
    omega
  · rw [three] at below filled ⊢
    omega

/-- A text is normalised unless rounding takes the amount to 1024.00 KB or 1024.00 MB. -/
theorem formatMemorySize_normalised_iff (rounding : Nearest Rat) (count : ByteCount) :
    ∃ printed, readText (formatMemorySize rounding count) = some printed ∧
      (Normalised printed ↔
        ¬ (1048571 ≤ count.bytes.toNat ∧ count.bytes.toNat ≤ 1048575) ∧
          ¬ (1073736582 ≤ count.bytes.toNat ∧ count.bytes.toNat ≤ 1073741823)) :=
  ⟨printed rounding count, readText_formatMemorySize rounding count,
    normalised_printed_iff rounding count⟩

/-- One byte less than a megabyte. -/
theorem formatMemorySize_not_normalised :
    formatMemorySize .even ⟨1048575, by decide⟩ = "1024.00 KB".toList ∧
      readText "1024.00 KB".toList = some ⟨102400, 1⟩ ∧ ¬ Normalised ⟨102400, 1⟩ := by
  refine ⟨by decide +kernel, by decide +kernel, fun normalised => ?_⟩
  exact absurd (normalised.below (by decide)) (by decide)

end MemoryDemo.Common.FormatMemorySize
