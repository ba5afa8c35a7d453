import Mathlib.Algebra.Order.Ring.Nat
import MemoryDemo.Mach.PrintMemoryInfo

/-! The two region walks of `print_memory_info`: when they stop, and what they visit. The walk
for the compressed pages goes on with the `address` that the first one left. -/

namespace MemoryDemo.Mach.RegionWalks
open Library.CursorWalk Library.Interval VmRegion PrintMemoryInfo

/-- Every successful answer is a nonempty region that ends above the queried address and
not above the limit; it may begin below the address, and answers need not fit together. -/
def Advances (vmRegion64 : Nat → UInt64 → Option Region) (limit : Nat) : Prop :=
  ∀ calls address region, vmRegion64 calls address = some region →
    0 < region.size.toNat ∧ address.toNat < region.stop ∧ region.stop ≤ limit

theorem serves_of_advances {vmRegion64 : Nat → UInt64 → Option Region} {limit : Nat}
    (advances : Advances vmRegion64 limit) (below : limit < 2 ^ 64) (calls : Nat)
    (address : UInt64) :
    ∃ regions last, Serves (source vmRegion64) calls address regions last ∧
      regions.length ≤ limit := by
  have moves : ∀ count cursor region, (source vmRegion64).query count cursor = some region →
      cursor.toNat < ((source vmRegion64).next region).toNat ∧
        ((source vmRegion64).next region).toNat ≤ limit := by
    intro count cursor region given
    obtain ⟨_, above, bounded⟩ := advances count cursor region given
    have reached : region.next.toNat = region.stop := region.next_toNat (by omega)
    change cursor.toNat < region.next.toNat ∧ region.next.toNat ≤ limit
    rw [reached]
    exact ⟨above, bounded⟩
  obtain ⟨regions, last, served, few⟩ :=
    serves_of_rank (source vmRegion64) UInt64.toNat limit moves calls address
  exact ⟨regions, last, served, Nat.le_trans few (Nat.sub_le _ _)⟩

/-- Over answers that advance both walks end, after no more questions than there are addresses
below the limit, and the last of each. -/
theorem printMemoryInfo_returns (kernel : Kernel) {limit : Nat}
    (advances : Advances kernel.vmRegion64 limit) (below : limit < 2 ^ 64) {vmInfo : TaskVmInfo}
    (known : kernel.taskInfo = some vmInfo) :
    ∃ info, (∀ fuel, limit < fuel → printMemoryInfo kernel fuel = some (.ok info)) ∧
      ServesWalks kernel.vmRegion64 info ∧ info.firstVisited.length ≤ limit ∧
      info.secondVisited.length ≤ limit ∧
      info.totals = info.firstVisited.foldl (addRegion kernel.vmPageSize) ⟨0, 0⟩ := by
  obtain ⟨first, turn, served, few⟩ := serves_of_advances advances below 0 0
  obtain ⟨second, last, again, fewer⟩ := serves_of_advances advances below (first.length + 1) turn
  exact ⟨_, fun fuel enough => printMemoryInfo_of_serves kernel vmInfo known served again fuel
    (by omega) (by omega), ⟨turn, last, served, again⟩, few, fewer, rfl⟩

theorem regions_nodup (space : AddressSpace) : space.regions.Nodup := by
  have apart := space.ascending.apart
  apply List.Pairwise.imp_of_mem _ apart
  intro first second _ inside before same
  subst same
  have proper := space.ascending.nonempty first inside
  omega

theorem steady_advances (space : AddressSpace) {limit : Nat}
    (within : ∀ region ∈ space.regions, region.stop ≤ limit) : Advances space.steady limit := by
  intro calls address region given
  obtain ⟨inside, above⟩ := firstAbove_some given
  have proper := space.ascending.nonempty region inside
  simp only [Region.start, Region.stop] at proper
  exact ⟨by omega, above, within region inside⟩

/-- Whatever the kernel answers, as long as its answers advance below a limit, the walks of
`print_memory_info` stop; and on an unchanging address space the first one, from which the
figures are computed, visits the regions as they lie, each once. -/
theorem printMemoryInfo_stops_and_covers (kernel : Kernel) (limit : Nat) (below : limit < 2 ^ 64) :
    (Advances kernel.vmRegion64 limit →
      ∃ result, (∀ fuel, limit < fuel → printMemoryInfo kernel fuel = some result) ∧
        match result with
        | .error _ => kernel.taskInfo = none
        | .ok info => ServesWalks kernel.vmRegion64 info ∧ info.firstVisited.length ≤ limit ∧
            info.secondVisited.length ≤ limit ∧
            info.totals = info.firstVisited.foldl (addRegion kernel.vmPageSize) ⟨0, 0⟩) ∧
    ∀ space : AddressSpace, kernel.vmRegion64 = space.steady →
      (∀ region ∈ space.regions, region.stop ≤ limit) → kernel.taskInfo.isSome →
        ∃ info, (∀ fuel, limit < fuel → printMemoryInfo kernel fuel = some (.ok info)) ∧
          info.firstVisited = space.regions ∧ info.firstVisited.Nodup ∧
          Ascending Region.start Region.stop info.firstVisited ∧
          info.totals = info.firstVisited.foldl (addRegion kernel.vmPageSize) ⟨0, 0⟩ := by
  constructor
  · intro advances
    cases known : kernel.taskInfo with
    | none =>
      exact ⟨.error "获取任务信息失败2", fun fuel _ => by rw [printMemoryInfo, known], rfl⟩
    | some vmInfo =>
      obtain ⟨info, printed, visited⟩ := printMemoryInfo_returns kernel advances below known
      exact ⟨.ok info, printed, visited⟩
  · intro space steady within asked
    obtain ⟨vmInfo, known⟩ := Option.isSome_iff_exists.mp asked
    obtain ⟨info, printed, ⟨turn, last, served, -⟩, -, -, folded⟩ :=
      printMemoryInfo_returns kernel (steady ▸ steady_advances space within) below known
    rw [steady] at served
    obtain ⟨all, -⟩ := serves_unique served (space.serves 0)
    refine ⟨info, printed, all, ?_, ?_, folded⟩
    · rw [all]
      exact regions_nodup space
    · rw [all]
      exact space.ascending

/-- A private region and a copy-on-write one behind a gap. -/
def twoRegions : AddressSpace where
  regions := [⟨0x1000, 0x1000, ⟨1, 1, 0, SM_PRIVATE⟩⟩, ⟨0x4000, 0x2000, ⟨2, 0, 2, SM_COW⟩⟩]
  ascending := ⟨by decide, by decide⟩
  fits := by decide

def twoRegionsKernel : Kernel :=
  steadyKernel twoRegions 4096 ⟨0, 0, 0, 0, 0, 0, 0⟩

theorem printMemoryInfo_stops_and_covers_twoRegions :
    Advances twoRegions.steady 0x6000 ∧
      ∃ info, (∀ fuel, 0x6000 < fuel → printMemoryInfo twoRegionsKernel fuel = some (.ok info)) ∧
        info.firstVisited = twoRegions.regions ∧ info.firstVisited.Nodup ∧
        Ascending Region.start Region.stop info.firstVisited ∧
        info.totals = info.firstVisited.foldl (addRegion 4096) ⟨0, 0⟩ :=
  ⟨steady_advances twoRegions (by decide),
    (printMemoryInfo_stops_and_covers twoRegionsKernel 0x6000 (by decide)).2 twoRegions rfl
      (by decide) rfl⟩

/-- The second walk visits what the first one visited, each region once. -/
def SameVisits (info : MemoryInfo) : Prop :=
  (∀ region, region ∈ info.secondVisited ↔ region ∈ info.firstVisited) ∧ info.secondVisited.Nodup

/-- On an unchanging address space the walks see the same regions only if there are none:
`address` is not set back to 0 between them. -/
theorem printMemoryInfo_sameVisits_iff (kernel : Kernel) (space : AddressSpace)
    (steady : kernel.vmRegion64 = space.steady) (asked : kernel.taskInfo.isSome) (fuel : Nat)
    (enough : space.regions.length < fuel) :
    ∃ info, printMemoryInfo kernel fuel = some (.ok info) ∧ info.firstVisited = space.regions ∧
      (SameVisits info ↔ space.regions = []) := by
  obtain ⟨vmInfo, known⟩ := Option.isSome_iff_exists.mp asked
  have served : Serves (source kernel.vmRegion64) 0 0 space.regions
      (lastAddress 0 space.regions) := by
    rw [steady]
    exact space.serves 0
  -- the second walk starts at the address at which the kernel had no further region
  have silent : Serves (source kernel.vmRegion64) (space.regions.length + 1)
      (lastAddress 0 space.regions) [] (lastAddress 0 space.regions) := by
    rw [steady]
    exact space.serves_end _
  refine ⟨_, printMemoryInfo_of_serves kernel vmInfo known served silent fuel enough
    (Nat.zero_lt_of_lt enough), rfl, ?_⟩
  constructor
  · rintro ⟨same, _⟩
    apply List.eq_nil_iff_forall_not_mem.mpr
    intro region inside
    exact absurd ((same region).mpr inside) List.not_mem_nil
  · intro empty
    refine ⟨fun region => ?_, List.nodup_nil⟩
    simp only [empty]

theorem printMemoryInfo_sameVisits_twoRegions :
    ∃ info, printMemoryInfo twoRegionsKernel 3 = some (.ok info) ∧
      info.firstVisited = twoRegions.regions ∧ (SameVisits info ↔ twoRegions.regions = []) :=
  printMemoryInfo_sameVisits_iff twoRegionsKernel twoRegions rfl rfl 3 (by decide)

/-- The walk for the compressed pages sees neither of the two regions. -/
theorem twoRegions_second_blind :
    ∃ info, printMemoryInfo twoRegionsKernel 3 = some (.ok info) ∧
      info.firstVisited.length = 2 ∧ info.secondVisited = [] ∧ ¬SameVisits info := by
  refine ⟨_, rfl, rfl, rfl, fun same => ?_⟩
  exact absurd ((same.1 _).mpr (List.mem_cons_self ..)) List.not_mem_nil

end MemoryDemo.Mach.RegionWalks
