import Mathlib.Algebra.Order.Ring.Nat
import Mathlib.Data.Int.Order.Basic

/-! The counters of `vm_statistics64` and the words computed from them. A counter is a
`natural_t` of 32 bits; sums and differences of counters wrap there, before the
multiplication by the page size widens them to 64 bits. -/

namespace MemoryDemo.System.Statistics

/-- The fields of `vm_statistics64_data_t` that the programs read. -/
structure VmStatistics64 where
  freeCount : UInt32
  activeCount : UInt32
  inactiveCount : UInt32
  wireCount : UInt32
  speculativeCount : UInt32
  purgeableCount : UInt32
  compressorPageCount : UInt32
  externalPageCount : UInt32
  internalPageCount : UInt32
  swapouts : UInt64
  totalUncompressedPagesInCompressor : UInt64
  deriving DecidableEq, Repr

/-- `vm_statistics64_data_t` with every byte zero. -/
def VmStatistics64.zero : VmStatistics64 :=
  ⟨0, 0, 0, 0, 0, 0, 0, 0, 0, 0, 0⟩

/-- The answer of `host_page_size`: at least one byte, and small enough for the bytes of
any 32-bit number of pages to fit a signed 64-bit word. -/
structure PageSize where
  bytes : UInt64
  positive : 0 < bytes.toNat
  small : bytes.toNat ≤ 2 ^ 31
  deriving DecidableEq, Repr

/-- The answers of `host_page_size`, `host_statistics64` and the sysctl of the swap usage;
`none` is a call that fails. -/
structure Host where
  hostPageSize : Option PageSize
  hostStatistics64 : Option VmStatistics64
  swapUsage : Option UInt64

/-- `count * page_size`. -/
def pageBytes (count : UInt32) (pageSize : PageSize) : UInt64 :=
  count.toUInt64 * pageSize.bytes

/-- The page size of an Intel Mac. -/
def page4096 : PageSize :=
  ⟨4096, by decide, by decide⟩

theorem pageBytes_toNat (count : UInt32) (pageSize : PageSize) :
    (pageBytes count pageSize).toNat = count.toNat * pageSize.bytes.toNat := by
  have product : count.toNat * pageSize.bytes.toNat < 2 ^ 64 :=
    calc count.toNat * pageSize.bytes.toNat
        ≤ 2 ^ 32 * 2 ^ 31 := Nat.mul_le_mul (Nat.le_of_lt count.toNat_lt) pageSize.small
      _ < 2 ^ 64 := by decide
  rw [pageBytes, UInt64.toNat_mul, UInt32.toNat_toUInt64]
  exact Nat.mod_eq_of_lt product

theorem toInt64_toInt (word : UInt64) (small : word.toNat < 2 ^ 63) :
    word.toInt64.toInt = word.toNat := by
  change word.toBitVec.toInt = _
  rw [BitVec.toInt_eq_toNat_of_lt (by change 2 * word.toNat < 2 ^ 64; omega)]
  rfl

/-- A product kept in a `long long` is exact in the number of pages it is given. -/
theorem pageBytes_toInt (count : UInt32) (pageSize : PageSize) :
    (pageBytes count pageSize).toInt64.toInt = count.toNat * pageSize.bytes.toNat := by
  have small : (pageBytes count pageSize).toNat < 2 ^ 63 := by
    rw [pageBytes_toNat]
    calc count.toNat * pageSize.bytes.toNat
        ≤ (2 ^ 32 - 1) * 2 ^ 31 :=
          Nat.mul_le_mul (Nat.le_sub_one_of_lt count.toNat_lt) pageSize.small
      _ < 2 ^ 63 := by decide
  rw [toInt64_toInt _ small, pageBytes_toNat]
  exact Int.natCast_mul _ _

/-- The product of the page size with an exact number of pages is the intended one, and
no other number of pages gives it. -/
theorem pageBytes_eq_iff (count : UInt32) (pageSize : PageSize) (pages : Int) :
    (pageBytes count pageSize).toInt64.toInt = pages * pageSize.bytes.toNat ↔
      (count.toNat : Int) = pages := by
  have positive := pageSize.positive
  rw [pageBytes_toInt]
  exact Int.mul_eq_mul_right_iff (by omega)

theorem sub_toNat_iff (first second : UInt32) :
    ((first - second).toNat : Int) = first.toNat - second.toNat ↔ second.toNat ≤ first.toNat := by
  have firstBound := first.toNat_lt
  have secondBound := second.toNat_lt
  rw [UInt32.toNat_sub]
  omega

theorem add_toNat_iff (first second : UInt32) :
    ((first + second).toNat : Int) = first.toNat + second.toNat ↔
      first.toNat + second.toNat < 2 ^ 32 := by
  have firstBound := first.toNat_lt
  have secondBound := second.toNat_lt
  rw [UInt32.toNat_add]
  omega

end MemoryDemo.System.Statistics
