import MemoryDemo.Common.FormatMemorySize
import MemoryDemo.System.FileMapReports

/-! The texts of `ParseMB` and `ParseGB` of `macos/system/activity_monitor_demo.mm`, and how the
changes that the file mapping tests print fit the columns that they print above them. -/

namespace MemoryDemo.System.ReportTexts
open Library.Rounding Common.FormatMemorySize FileMapReports Statistics Metrics

/-- The conversion of an integer to a `double`: what 53 bits hold stays as it is. -/
structure Conversion where
  double : Int → Rat
  exact : ∀ (mantissa : Int) (exponent : Nat), |mantissa| < 2 ^ 53 →
    double (mantissa * 2 ^ exponent) = mantissa * 2 ^ exponent

/-- `std::fixed << std::setprecision(2)`: the magnitude is rounded, and the sign is that of the
number, also where nothing but zeros is left of it. -/
def fixedText (rounding : Nearest Rat) (value : Rat) : List Char :=
  let magnitude := fixed (rounding.round (100 * |value|)).toNat
  if value < 0 then '-' :: magnitude else magnitude

def parseMB (rounding : Nearest Rat) (bytes : Rat) : List Char :=
  fixedText rounding (bytes / 1024 / 1024) ++ ' ' :: ['M', 'B']

def parseGB (rounding : Nearest Rat) (bytes : Rat) : List Char :=
  fixedText rounding (bytes / 1024 / 1024 / 1024) ++ ' ' :: ['G', 'B']

def amountText (rounding : Nearest Rat) (conversion : Conversion) : Amount → List Char
  | .gigabytes bytes => parseGB rounding (conversion.double bytes)
  | .megabytes bytes => parseMB rounding (conversion.double bytes)

/-- A text with a sign or without: the hundredths, and the unit by its index. -/
def readSigned : List Char → Option (Int × Nat)
  | '-' :: text => (readText text).map fun printed => (-printed.hundredths, printed.unitIndex)
  | text => (readText text).map fun printed => (printed.hundredths, printed.unitIndex)

/-- The texts in the row of the table with a label. -/
def columnTexts (text : Amount → List Char) (label : String) : List Line → List (List Char)
  | [] => []
  | .row name amounts :: lines =>
    if name = label then amounts.map text else columnTexts text label lines
  | .text _ :: lines => columnTexts text label lines
  | .change _ _ _ :: lines => columnTexts text label lines

/-- The texts of the changes behind a label, in order. -/
def changeTexts (text : Amount → List Char) (label : String) : List Line → List (List Char)
  | [] => []
  | .change name amount _ :: lines =>
    if name = label then text amount :: changeTexts text label lines
    else changeTexts text label lines
  | .text _ :: lines => changeTexts text label lines
  | .row _ _ :: lines => changeTexts text label lines

/-- The hundredths that a number is printed with. -/
def hundredths (rounding : Nearest Rat) (value : Rat) : Int :=
  if value < 0 then -rounding.round (100 * |value|) else rounding.round (100 * |value|)

section Reading
variable (rounding : Nearest Rat) (value : Rat)

theorem round_magnitude_nonneg : 0 ≤ rounding.round (100 * |value|) := by
  apply rounding.le_round_of_le
  rw [Int.cast_zero]
  positivity

theorem hundredths_near : |(hundredths rounding value : Rat) - 100 * value| ≤ 1 / 2 := by
  have near := rounding.near (100 * |value|)
  unfold hundredths
  split
  next negative =>
    rw [abs_of_neg negative] at near ⊢
    rw [abs_le] at near ⊢
    push_cast
    constructor <;> linarith
  next nonneg =>
    rwa [abs_of_nonneg (not_lt.mp nonneg)] at near ⊢

/-- The digits in front of the point are few. -/
theorem magnitude_short (small : |value| ≤ 2 ^ 64) :
    (rounding.round (100 * |value|)).toNat / 100 < 10 ^ 25 := by
  have rounded := rounding.round_le_of_le (100 * |value|) (100 * 2 ^ 64) (by
    push_cast
    linarith)
  omega

theorem readText_fixed {count : Nat} (short : count / 100 < 10 ^ 25) {unitIndex : Nat}
    (inside : unitIndex < 4) :
    readText (fixed count ++ ' ' :: units.getD unitIndex []) = some ⟨count, unitIndex⟩ := by
  rw [← snprintf_fits short (units_spec unitIndex inside).1]
  exact readText_snprintf short inside

theorem fixed_head (count : Nat) (rest text : List Char) : fixed count ++ rest ≠ '-' :: text := by
  intro same
  have digits : ∃ first others, Nat.toDigits 10 (count / 100) = first :: others :=
    List.exists_cons_of_ne_nil Nat.toDigits_ne_nil
  obtain ⟨first, others, listed⟩ := digits
  have isDigit : first.isDigit = true :=
    Nat.isDigit_of_mem_toDigits (by decide) (by decide) (listed ▸ List.mem_cons_self)
  rw [fixed, listed] at same
  obtain ⟨rfl, -⟩ := List.cons.inj same
  exact absurd isDigit (by decide)

/-- What is printed of a number that is not too large reads back. -/
theorem readSigned_fixedText (small : |value| ≤ 2 ^ 64) {unitIndex : Nat}
    (inside : unitIndex < 4) :
    readSigned (fixedText rounding value ++ ' ' :: units.getD unitIndex []) =
      some (hundredths rounding value, unitIndex) := by
  have read := readText_fixed (magnitude_short rounding value small) inside
  have nonneg := round_magnitude_nonneg rounding value
  unfold fixedText hundredths
  split
  next negative =>
    rw [List.cons_append, readSigned, read]
    simp only [Option.map_some, Int.toNat_of_nonneg nonneg]
  next =>
    unfold readSigned
    split
    next text same => exact absurd same (fixed_head _ _ text)
    next =>
      rw [read]
      simp only [Option.map_some, Int.toNat_of_nonneg nonneg]

end Reading

/-- Three numbers of which the third is the difference of the others: so are their hundredths,
up to one. -/
theorem hundredths_difference (rounding : Nearest Rat) {first second change : Rat}
    (exact : change = second - first) :
    |hundredths rounding change - (hundredths rounding second - hundredths rounding first)| ≤ 1 := by
  have near := abs_le.mp (hundredths_near rounding change)
  have near_first := abs_le.mp (hundredths_near rounding first)
  have near_second := abs_le.mp (hundredths_near rounding second)
  have low : ((-2 : Int) : Rat) < ((hundredths rounding change -
      (hundredths rounding second - hundredths rounding first) : Int) : Rat) := by
    push_cast
    linarith
  have high : ((hundredths rounding change -
      (hundredths rounding second - hundredths rounding first) : Int) : Rat) < ((2 : Int) : Rat) := by
    push_cast
    linarith
  have above := Int.cast_lt.mp low
  have below := Int.cast_lt.mp high
  rw [abs_le]
  omega

/-- A difference in megabytes under numbers in gigabytes. -/
theorem hundredths_difference_scaled (rounding : Nearest Rat) {first second change : Rat}
    (exact : change = 1024 * (second - first)) :
    |hundredths rounding change -
      1024 * (hundredths rounding second - hundredths rounding first)| ≤ 1024 := by
  have near := abs_le.mp (hundredths_near rounding change)
  have near_first := abs_le.mp (hundredths_near rounding first)
  have near_second := abs_le.mp (hundredths_near rounding second)
  have low : ((-1025 : Int) : Rat) < ((hundredths rounding change -
      1024 * (hundredths rounding second - hundredths rounding first) : Int) : Rat) := by
    push_cast
    linarith
  have high : ((hundredths rounding change -
      1024 * (hundredths rounding second - hundredths rounding first) : Int) : Rat) <
        ((1025 : Int) : Rat) := by
    push_cast
    linarith
  have above := Int.cast_lt.mp low
  have below := Int.cast_lt.mp high
  rw [abs_le]
  omega

/-- A change that is too large by 2^32 bytes at least shows. -/
theorem hundredths_apart (rounding : Nearest Rat) {first second change : Rat}
    (apart : second - first + 4096 ≤ change) :
    1 < hundredths rounding change - (hundredths rounding second - hundredths rounding first) := by
  have near := abs_le.mp (hundredths_near rounding change)
  have near_first := abs_le.mp (hundredths_near rounding first)
  have near_second := abs_le.mp (hundredths_near rounding second)
  have low : ((1 : Int) : Rat) < ((hundredths rounding change -
      (hundredths rounding second - hundredths rounding first) : Int) : Rat) := by
    push_cast
    linarith
  exact Int.cast_lt.mp low

section Amounts
variable (rounding : Nearest Rat) (conversion : Conversion) {bits : Nat}

/-- So many megabytes are so many pages of a size that is a power of two. -/
def megabytes (bits : Nat) (count : Int) : Rat :=
  (count * 2 ^ bits : Rat) / 1024 / 1024

def gigabytes (bits : Nat) (count : Int) : Rat :=
  (count * 2 ^ bits : Rat) / 1024 / 1024 / 1024

theorem double_pages {count : Int} (few : |count| ≤ 2 ^ 32) :
    conversion.double (count * 2 ^ bits) = (count * 2 ^ bits : Rat) :=
  conversion.exact count bits (lt_of_le_of_lt few (by norm_num))

theorem pages_small (short : bits ≤ 31) {count : Int} (few : |count| ≤ 2 ^ 32) :
    |(count * 2 ^ bits : Rat)| ≤ 2 ^ 64 := by
  have many : |(count : Rat)| ≤ 2 ^ 32 := by exact_mod_cast few
  have size : (2 : Rat) ^ bits ≤ 2 ^ 31 := pow_le_pow_right₀ (by norm_num) short
  calc |(count * 2 ^ bits : Rat)|
      = |(count : Rat)| * 2 ^ bits := by
        rw [abs_mul, abs_of_pos (show (0 : Rat) < 2 ^ bits by positivity)]
    _ ≤ 2 ^ 32 * 2 ^ 31 := mul_le_mul many size (by positivity) (by positivity)
    _ ≤ 2 ^ 64 := by norm_num

theorem div_small {value : Rat} (small : |value| ≤ 2 ^ 64) : |value / 1024| ≤ 2 ^ 64 := by
  rw [abs_div, abs_of_pos (show (0 : Rat) < 1024 by norm_num)]
  linarith [abs_nonneg value]

theorem readSigned_megabytes (short : bits ≤ 31) {count : Int} (few : |count| ≤ 2 ^ 32) :
    readSigned (amountText rounding conversion (.megabytes (count * 2 ^ bits))) =
      some (hundredths rounding (megabytes bits count), 2) := by
  have small := div_small (div_small (pages_small short few))
  change readSigned (fixedText rounding (conversion.double (count * 2 ^ bits) / 1024 / 1024) ++
    ' ' :: units.getD 2 []) = _
  rw [double_pages conversion few]
  exact readSigned_fixedText rounding _ small (by decide)

theorem readSigned_gigabytes (short : bits ≤ 31) {count : Int} (few : |count| ≤ 2 ^ 32) :
    readSigned (amountText rounding conversion (.gigabytes (count * 2 ^ bits))) =
      some (hundredths rounding (gigabytes bits count), 3) := by
  have small := div_small (div_small (div_small (pages_small short few)))
  change readSigned (fixedText rounding
    (conversion.double (count * 2 ^ bits) / 1024 / 1024 / 1024) ++ ' ' :: units.getD 3 []) = _
  rw [double_pages conversion few]
  exact readSigned_fixedText rounding _ small (by decide)

end Amounts

/-- The changes are read in megabytes; with the columns in their unit they fit the differences of
these, times a scale, up to so many hundredths. -/
def Agrees (rowUnit : Nat) (scale slack : Int) (rows changes : List (List Char)) : Prop :=
  match rows.mapM readSigned, changes.mapM readSigned with
  | some rows, some changes =>
    (∀ row ∈ rows, row.2 = rowUnit) ∧ (∀ change ∈ changes, change.2 = 2) ∧
      List.Forall₂ (fun change difference => |change - scale * difference| ≤ slack)
        (changes.map Prod.fst) (differences (rows.map Prod.fst))
  | _, _ => False

/-- The memory of the applications and the cached files are in gigabytes in the table. -/
structure GigabytesAgree (text : Amount → List Char) (lines : List Line) : Prop where
  app : Agrees 3 1024 1024 (columnTexts text "App 内存" lines)
    (changeTexts text "  - App内存: " lines)
  cached : Agrees 3 1024 1024 (columnTexts text "已缓存文件" lines)
    (changeTexts text "  - 已缓存文件: " lines)

def ExternalAgrees (text : Amount → List Char) (lines : List Line) : Prop :=
  Agrees 2 1 1 (columnTexts text "external_page_count" lines)
    (changeTexts text "  - external_page_count: " lines)

section Tables
variable (rounding : Nearest Rat) (conversion : Conversion) {bits : Nat}

theorem count_few (count : UInt32) : |(count.toNat : Int)| ≤ 2 ^ 32 := by
  have bound := count.toNat_lt
  rw [abs_of_nonneg (Int.natCast_nonneg _)]
  omega

theorem difference_few (first second : UInt32) :
    |(second.toNat : Int) - first.toNat| ≤ 2 ^ 32 := by
  have bound := first.toNat_lt
  have bound' := second.toNat_lt
  rw [abs_le]
  omega

theorem gigabytes_step (bits : Nat) (first second : UInt32) :
    |hundredths rounding (megabytes bits ((second.toNat : Int) - first.toNat)) -
      1024 * (hundredths rounding (gigabytes bits second.toNat) -
        hundredths rounding (gigabytes bits first.toNat))| ≤ 1024 := by
  apply hundredths_difference_scaled
  rw [megabytes, gigabytes, gigabytes]
  push_cast
  ring

/-- A counter that falls is taken for one that has grown by nearly 2^32 pages. -/
theorem megabytes_wrapped (bits : Nat) {first second : UInt32} (falls : second < first) :
    megabytes bits second.toNat - megabytes bits first.toNat + 4096 ≤
      megabytes bits ((second - first).toNat : Int) := by
  have order := UInt32.lt_iff_toNat_lt.mp falls
  have bound := first.toNat_lt
  have wrapped : (second - first).toNat + first.toNat = 2 ^ 32 + second.toNat := by
    rw [UInt32.toNat_sub]
    omega
  have cast : (((second - first).toNat : Nat) : Rat) + first.toNat = 2 ^ 32 + second.toNat := by
    exact_mod_cast wrapped
  have size : (1 : Rat) ≤ 2 ^ bits := one_le_pow₀ (by norm_num)
  have page : (2 : Rat) ^ 32 ≤ 2 ^ 32 * 2 ^ bits := le_mul_of_one_le_right (by norm_num) size
  have same : ((second - first).toNat : Rat) * 2 ^ bits =
      2 ^ 32 * 2 ^ bits + second.toNat * 2 ^ bits - first.toNat * 2 ^ bits := by
    rw [eq_sub_of_add_eq cast]
    ring
  rw [megabytes, megabytes, megabytes]
  push_cast
  rw [same]
  linarith

theorem external_step_iff (bits : Nat) (first second : UInt32) :
    |hundredths rounding (megabytes bits ((second - first).toNat : Int)) -
      1 * (hundredths rounding (megabytes bits second.toNat) -
        hundredths rounding (megabytes bits first.toNat))| ≤ 1 ↔ first ≤ second := by
  rw [one_mul]
  constructor
  · intro agrees
    by_contra falls
    have apart := hundredths_apart rounding (megabytes_wrapped bits (UInt32.not_le.mp falls))
    have near := (abs_le.mp agrees).2
    omega
  · intro grows
    have exact := (sub_toNat_iff second first).mpr (UInt32.le_iff_toNat_le.mp grows)
    apply hundredths_difference
    rw [exact, megabytes, megabytes, megabytes]
    push_cast
    ring

/-- The columns of counters that are kept in gigabytes, with the changes of the counters. -/
theorem gigabytes_agree (short : bits ≤ 31) (first second third : UInt32) :
    Agrees 3 1024 1024
      ([.gigabytes (first.toNat * 2 ^ bits), .gigabytes (second.toNat * 2 ^ bits)].map
        (amountText rounding conversion))
      ([.megabytes (((second.toNat : Int) - first.toNat) * 2 ^ bits)].map
        (amountText rounding conversion)) ∧
    Agrees 3 1024 1024
      ([.gigabytes (first.toNat * 2 ^ bits), .gigabytes (second.toNat * 2 ^ bits),
        .gigabytes (third.toNat * 2 ^ bits)].map (amountText rounding conversion))
      ([.megabytes (((second.toNat : Int) - first.toNat) * 2 ^ bits),
        .megabytes (((third.toNat : Int) - second.toNat) * 2 ^ bits)].map
        (amountText rounding conversion)) := by
  have step := gigabytes_step rounding bits first second
  have later := gigabytes_step rounding bits second third
  simp only [Agrees, List.map_cons, List.map_nil, List.mapM_cons, List.mapM_nil,
    readSigned_gigabytes rounding conversion short (count_few _),
    readSigned_megabytes rounding conversion short (difference_few _ _)]
  simp [differences, step, later]

/-- The columns of the counter itself, with its differences in 32 bits. -/
theorem external_agree_iff (short : bits ≤ 31) (first second third : UInt32) :
    (Agrees 2 1 1
      ([.megabytes (first.toNat * 2 ^ bits), .megabytes (second.toNat * 2 ^ bits)].map
        (amountText rounding conversion))
      ([.megabytes ((second - first).toNat * 2 ^ bits)].map (amountText rounding conversion)) ↔
        first ≤ second) ∧
    (Agrees 2 1 1
      ([.megabytes (first.toNat * 2 ^ bits), .megabytes (second.toNat * 2 ^ bits),
        .megabytes (third.toNat * 2 ^ bits)].map (amountText rounding conversion))
      ([.megabytes ((second - first).toNat * 2 ^ bits),
        .megabytes ((third - second).toNat * 2 ^ bits)].map (amountText rounding conversion)) ↔
        first ≤ second ∧ second ≤ third) := by
  rw [← external_step_iff rounding bits first second,
    ← external_step_iff rounding bits second third]
  simp only [Agrees, List.map_cons, List.map_nil, List.mapM_cons, List.mapM_nil,
    readSigned_megabytes rounding conversion short (count_few _)]
  simp [differences]

end Tables

section Reports
variable (pageSize : PageSize) {bits : Nat}

theorem bits_short (power : pageSize.bytes.toNat = 2 ^ bits) : bits ≤ 31 :=
  (Nat.pow_le_pow_iff_right (by decide)).mp (power ▸ pageSize.small)

/-- The pages that the two figures in gigabytes stand for. -/
def appPages (stat : VmStatistics64) : UInt32 :=
  stat.internalPageCount - stat.purgeableCount

def cachedFilePages (stat : VmStatistics64) : UInt32 :=
  stat.externalPageCount + stat.purgeableCount

theorem toInt_sub_of_nonneg {first second : Int64} (nonneg : 0 ≤ first.toInt)
    (nonneg' : 0 ≤ second.toInt) : (second - first).toInt = second.toInt - first.toInt := by
  have high := first.toInt_lt
  have high' := second.toInt_lt
  rw [Int64.toInt_sub]
  apply Int.bmod_eq_of_le <;> omega

/-- A figure of pages, and its difference to a later one. -/
theorem pageBytes_sub (power : pageSize.bytes.toNat = 2 ^ bits) (first second : UInt32) :
    (pageBytes first pageSize).toInt64.toInt = first.toNat * 2 ^ bits ∧
      ((pageBytes second pageSize).toInt64 - (pageBytes first pageSize).toInt64).toInt =
        ((second.toNat : Int) - first.toNat) * 2 ^ bits := by
  have exact (count : UInt32) : (pageBytes count pageSize).toInt64.toInt = count.toNat * 2 ^ bits := by
    rw [pageBytes_toInt, power]
    push_cast
    rfl
  refine ⟨exact first, ?_⟩
  rw [toInt_sub_of_nonneg, exact, exact, Int.sub_mul]
  · rw [exact]
    positivity
  · rw [exact]
    positivity

/-- Figures of pages with their differences, as the reports print them. -/
theorem figures_agree (rounding : Nearest Rat) (conversion : Conversion)
    (power : pageSize.bytes.toNat = 2 ^ bits) (first second third : UInt32) :
    Agrees 3 1024 1024
      ([Amount.gigabytes (pageBytes first pageSize).toInt64.toInt,
        .gigabytes (pageBytes second pageSize).toInt64.toInt].map
          (amountText rounding conversion))
      ([Amount.megabytes
          ((pageBytes second pageSize).toInt64 - (pageBytes first pageSize).toInt64).toInt].map
            (amountText rounding conversion)) ∧
    Agrees 3 1024 1024
      ([Amount.gigabytes (pageBytes first pageSize).toInt64.toInt,
        .gigabytes (pageBytes second pageSize).toInt64.toInt,
        .gigabytes (pageBytes third pageSize).toInt64.toInt].map (amountText rounding conversion))
      ([Amount.megabytes
          ((pageBytes second pageSize).toInt64 - (pageBytes first pageSize).toInt64).toInt,
        .megabytes
          ((pageBytes third pageSize).toInt64 - (pageBytes second pageSize).toInt64).toInt].map
            (amountText rounding conversion)) := by
  have figures := pageBytes_sub pageSize power
  rw [(figures first second).1, (figures second third).1, (figures third third).1,
    (figures first second).2, (figures second third).2]
  exact gigabytes_agree rounding conversion (bits_short pageSize power) first second third

theorem externalBytes_eq (power : pageSize.bytes.toNat = 2 ^ bits) (stat : VmStatistics64)
    (swapUsage : Option UInt64) :
    ((externalBytes (snapshot pageSize stat swapUsage)).toNat : Int) =
      stat.externalPageCount.toNat * 2 ^ bits := by
  rw [externalBytes_snapshot, counted, power]
  push_cast
  rfl

theorem externalGrowth_eq (power : pageSize.bytes.toNat = 2 ^ bits) (first second : VmStatistics64)
    (swapFirst swapSecond : Option UInt64) :
    ((externalGrowth (snapshot pageSize first swapFirst) (snapshot pageSize second swapSecond)
      pageSize.bytes).toNat : Int) =
        (second.externalPageCount - first.externalPageCount).toNat * 2 ^ bits := by
  change ((pageBytes (second.externalPageCount - first.externalPageCount) pageSize).toNat : Int) = _
  rw [pageBytes_toNat, power]
  push_cast
  rfl

theorem noModify_agree (text : Amount → List Char) (before after : MemoryMetrics)
    (app : Agrees 3 1024 1024
      ([.gigabytes before.appMemory.toInt, .gigabytes after.appMemory.toInt].map text)
      ([.megabytes (after.appMemory - before.appMemory).toInt].map text))
    (cached : Agrees 3 1024 1024
      ([.gigabytes before.cachedFiles.toInt, .gigabytes after.cachedFiles.toInt].map text)
      ([.megabytes (after.cachedFiles - before.cachedFiles).toInt].map text)) :
    GigabytesAgree text (testFileMapSharedNoModifyReport before after) := by
  constructor
  · simpa [testFileMapSharedNoModifyReport, appRow, cachedRow, externalRow, cachedChange, appChange,
      externalChange, columnTexts, changeTexts] using app
  · simpa [testFileMapSharedNoModifyReport, appRow, cachedRow, externalRow, cachedChange, appChange,
      externalChange, columnTexts, changeTexts] using cached

theorem noModify_external (text : Amount → List Char) (before after : MemoryMetrics) :
    ExternalAgrees text (testFileMapSharedNoModifyReport before after) ↔
      Agrees 2 1 1
        ([.megabytes (externalBytes before).toNat, .megabytes (externalBytes after).toNat].map text)
        ([.megabytes (externalGrowth before after before.pageSize).toNat].map text) := by
  simp [ExternalAgrees, testFileMapSharedNoModifyReport, appRow, cachedRow, externalRow,
    cachedChange, appChange, externalChange, columnTexts, changeTexts]

theorem modify_agree (text : Amount → List Char) (before afterMap after : MemoryMetrics)
    (app : Agrees 3 1024 1024
      ([.gigabytes before.appMemory.toInt, .gigabytes afterMap.appMemory.toInt,
        .gigabytes after.appMemory.toInt].map text)
      ([.megabytes (afterMap.appMemory - before.appMemory).toInt,
        .megabytes (after.appMemory - afterMap.appMemory).toInt].map text))
    (cached : Agrees 3 1024 1024
      ([.gigabytes before.cachedFiles.toInt, .gigabytes afterMap.cachedFiles.toInt,
        .gigabytes after.cachedFiles.toInt].map text)
      ([.megabytes (afterMap.cachedFiles - before.cachedFiles).toInt,
        .megabytes (after.cachedFiles - afterMap.cachedFiles).toInt].map text)) :
    GigabytesAgree text (testFileMapSharedModifyReport before afterMap after) := by
  constructor
  · simpa [testFileMapSharedModifyReport, appRow, cachedRow, externalRow, cachedChange, appChange,
      externalChange, columnTexts, changeTexts] using app
  · simpa [testFileMapSharedModifyReport, appRow, cachedRow, externalRow, cachedChange, appChange,
      externalChange, columnTexts, changeTexts] using cached

theorem modify_external (text : Amount → List Char) (before afterMap after : MemoryMetrics) :
    ExternalAgrees text (testFileMapSharedModifyReport before afterMap after) ↔
      Agrees 2 1 1
        ([.megabytes (externalBytes before).toNat, .megabytes (externalBytes afterMap).toNat,
          .megabytes (externalBytes after).toNat].map text)
        ([.megabytes (externalGrowth before afterMap before.pageSize).toNat,
          .megabytes (externalGrowth afterMap after before.pageSize).toNat].map text) := by
  simp [ExternalAgrees, testFileMapSharedModifyReport, appRow, cachedRow, externalRow,
    cachedChange, appChange, externalChange, columnTexts, changeTexts]

/-- The printed changes fit the printed columns: those of the two figures always, with what the
rounding of gigabytes leaves open; those of external_page_count, to the last digit but one, if and
only if the counter does not fall. -/
theorem reports_agree (rounding : Nearest Rat) (conversion : Conversion)
    (power : pageSize.bytes.toNat = 2 ^ bits) (before afterMap after : VmStatistics64)
    (swapBefore swapMap swapAfter : Option UInt64) :
    (GigabytesAgree (amountText rounding conversion)
        (testFileMapSharedNoModifyReport (snapshot pageSize before swapBefore)
          (snapshot pageSize after swapAfter)) ∧
      (ExternalAgrees (amountText rounding conversion)
        (testFileMapSharedNoModifyReport (snapshot pageSize before swapBefore)
          (snapshot pageSize after swapAfter)) ↔
        before.externalPageCount ≤ after.externalPageCount)) ∧
    (GigabytesAgree (amountText rounding conversion)
        (testFileMapSharedModifyReport (snapshot pageSize before swapBefore)
          (snapshot pageSize afterMap swapMap) (snapshot pageSize after swapAfter)) ∧
      (ExternalAgrees (amountText rounding conversion)
        (testFileMapSharedModifyReport (snapshot pageSize before swapBefore)
          (snapshot pageSize afterMap swapMap) (snapshot pageSize after swapAfter)) ↔
        before.externalPageCount ≤ afterMap.externalPageCount ∧
          afterMap.externalPageCount ≤ after.externalPageCount)) := by
  have short := bits_short pageSize power
  have app := figures_agree pageSize rounding conversion power (appPages before)
  have cached := figures_agree pageSize rounding conversion power (cachedFilePages before)
  have external := external_agree_iff rounding conversion short before.externalPageCount
  have page : (snapshot pageSize before swapBefore).pageSize = pageSize.bytes := rfl
  refine ⟨⟨?_, ?_⟩, ?_, ?_⟩
  · exact noModify_agree _ _ _ (app (appPages after) 0).1 (cached (cachedFilePages after) 0).1
  · rw [noModify_external, page, externalBytes_eq pageSize power, externalBytes_eq pageSize power,
      externalGrowth_eq pageSize power]
    exact (external after.externalPageCount 0).1
  · exact modify_agree _ _ _ _ (app (appPages afterMap) (appPages after)).2
      (cached (cachedFilePages afterMap) (cachedFilePages after)).2
  · rw [modify_external, page, externalBytes_eq pageSize power, externalBytes_eq pageSize power,
      externalBytes_eq pageSize power, externalGrowth_eq pageSize power,
      externalGrowth_eq pageSize power]
    exact (external afterMap.externalPageCount after.externalPageCount).2

/-- The conversion of the integers that 53 bits hold. -/
def exactly : Conversion where
  double value := value
  exact mantissa exponent _ := by push_cast; rfl

/-- One cached page fewer, and nothing else. -/
theorem reports_agree_cached :
    (GigabytesAgree (amountText .even exactly)
        (testFileMapSharedNoModifyReport (snapshot page4096 (cachedPages 10) none)
          (snapshot page4096 (cachedPages 9) none)) ∧
      (ExternalAgrees (amountText .even exactly)
        (testFileMapSharedNoModifyReport (snapshot page4096 (cachedPages 10) none)
          (snapshot page4096 (cachedPages 9) none)) ↔
        (cachedPages 10).externalPageCount ≤ (cachedPages 9).externalPageCount)) ∧
    (GigabytesAgree (amountText .even exactly)
        (testFileMapSharedModifyReport (snapshot page4096 (cachedPages 10) none)
          (snapshot page4096 (cachedPages 10) none) (snapshot page4096 (cachedPages 9) none)) ∧
      (ExternalAgrees (amountText .even exactly)
        (testFileMapSharedModifyReport (snapshot page4096 (cachedPages 10) none)
          (snapshot page4096 (cachedPages 10) none) (snapshot page4096 (cachedPages 9) none)) ↔
        (cachedPages 10).externalPageCount ≤ (cachedPages 10).externalPageCount ∧
          (cachedPages 10).externalPageCount ≤ (cachedPages 9).externalPageCount)) :=
  reports_agree page4096 .even exactly (show page4096.bytes.toNat = 2 ^ 12 from rfl)
    (cachedPages 10) (cachedPages 10) (cachedPages 9) none none none

end Reports

end MemoryDemo.System.ReportTexts
