import MemoryDemo.Library.CursorWalk
import MemoryDemo.Library.Interval

/-! The regions of a Mach task as `vm_region_64` with `VM_REGION_TOP_INFO` reports them,
and the answers it gives on an address space that does not change. -/

namespace MemoryDemo.Mach.VmRegion
open Library.CursorWalk Library.Interval

/-- `share_mode` is one byte; `mach/vm_region.h` names the values from 1 to 8. -/
abbrev ShareMode := UInt8

def SM_COW : ShareMode := 1
def SM_PRIVATE : ShareMode := 2
def SM_EMPTY : ShareMode := 3
def SM_SHARED : ShareMode := 4

/-- `vm_region_top_info_data_t`. -/
structure TopInfo where
  refCount : UInt32
  privatePagesResident : UInt32
  sharedPagesResident : UInt32
  shareMode : ShareMode
  deriving DecidableEq, Repr

/-- One successful answer of `vm_region_64`: the in/out `address`, the `size` and the `info`. -/
structure Region where
  address : UInt64
  size : UInt64
  info : TopInfo
  deriving DecidableEq, Repr

def Region.start (region : Region) : Nat := region.address.toNat
def Region.stop (region : Region) : Nat := region.address.toNat + region.size.toNat

def Region.next (region : Region) : UInt64 := region.address + region.size

theorem Region.next_toNat (region : Region) (fits : region.stop < 2 ^ 64) :
    region.next.toNat = region.stop := by
  rw [Region.next, UInt64.toNat_add]
  exact Nat.mod_eq_of_lt fits

/-- The regions of one task. The end of a region is an address too, as the largest
address of a `vm_map` is. -/
structure AddressSpace where
  regions : List Region
  ascending : Ascending Region.start Region.stop regions
  fits : ∀ region ∈ regions, region.stop < 2 ^ 64

/-- The region that contains or follows the address. -/
def AddressSpace.vmRegion64 (space : AddressSpace) (address : UInt64) : Option Region :=
  firstAbove Region.stop address.toNat space.regions

/-- The question a region walk repeats, put to a kernel that may change its answers. -/
def source (vmRegion64 : Nat → UInt64 → Option Region) : Source UInt64 Region where
  query := vmRegion64
  next := Region.next

def AddressSpace.steady (space : AddressSpace) : Nat → UInt64 → Option Region :=
  fun _ address => space.vmRegion64 address

def lastAddress (address : UInt64) (regions : List Region) : UInt64 :=
  regions.foldl (fun _ region => region.next) address

private theorem serves_after (space : AddressSpace) (calls : Nat) (address : UInt64)
    (before after : List Region) (split : space.regions = before ++ after)
    (behind : ∀ region ∈ before, region.stop ≤ address.toNat)
    (ahead : ∀ region ∈ after, address.toNat ≤ region.start) :
    Serves (source space.steady) calls address after (lastAddress address after) := by
  induction after generalizing calls address before with
  | nil =>
    apply Serves.fails
    simp only [source, AddressSpace.steady, AddressSpace.vmRegion64, split, List.append_nil]
    exact firstAbove_none behind
  | cons region rest ih =>
    have member : region ∈ space.regions := by simp [split]
    have proper := space.ascending.nonempty region member
    have arrived := region.next_toNat (space.fits region member)
    have suffix : Ascending Region.start Region.stop (region :: rest) :=
      ⟨fun other inside => space.ascending.nonempty other (by simp [split, List.mem_cons.mp inside]),
        (List.pairwise_append.mp (split ▸ space.ascending.apart)).2.1⟩
    have given : (source space.steady).query calls address = some region := by
      simp only [source, AddressSpace.steady, AddressSpace.vmRegion64, split]
      exact firstAbove_split behind (lt_of_le_of_lt (ahead region (List.mem_cons_self ..)) proper)
    apply Serves.answers given
    apply ih (calls + 1) region.next (before ++ [region])
    · simp [split]
    · rw [arrived]
      have reached := ahead region (List.mem_cons_self ..)
      exact below_append behind (by omega) (le_refl _)
    · intro other inside
      rw [arrived]
      exact suffix.stop_le other inside

/-- On an unchanging address space a walk from address 0 is served every region, once
and in ascending order. -/
theorem AddressSpace.serves (space : AddressSpace) (calls : Nat) :
    Serves (source space.steady) calls 0 space.regions (lastAddress 0 space.regions) :=
  serves_after space calls 0 [] space.regions rfl (by simp) (by simp)

/-- A walk that starts where an earlier one ended is served nothing. -/
theorem AddressSpace.serves_end (space : AddressSpace) (calls : Nat) :
    Serves (source space.steady) calls (lastAddress 0 space.regions) []
      (lastAddress 0 space.regions) := by
  have silent : ∀ (count : Nat) (cursor last : UInt64) (answers : List Region),
      Serves (source space.steady) count cursor answers last → space.steady calls last = none := by
    intro count cursor last answers served
    induction served with
    | fails silent => exact silent
    | answers given later ih => exact ih
  exact Serves.fails (silent calls 0 _ _ (space.serves calls))

end MemoryDemo.Mach.VmRegion
