import Mathlib.Algebra.Order.BigOperators.Group.Finset
import Mathlib.Algebra.Order.BigOperators.Group.List
import Mathlib.Algebra.Order.Ring.Nat
import MemoryDemo.Mach.PrintMemoryInfo

/-! The figure "real shared" over a whole machine. Each task counts its share of every
object it maps, and the shares of all tasks add up to the object, but for rounding. -/

namespace MemoryDemo.Mach.ProportionalShare
open Library.CursorWalk Library.Accumulator VmRegion PrintMemoryInfo

/-- Tasks that map memory objects: which regions map which object, and what the kernel
reports about such a region. -/
structure Machine (Task Object : Type) [DecidableEq Object] where
  tasks : Finset Task
  objects : Finset Object
  space : Task → AddressSpace
  object : Task → Region → Option Object
  resident : Object → UInt32
  mappings : Object → UInt32
  several : ∀ o ∈ objects, 2 ≤ (mappings o).toNat
  counted : ∀ o ∈ objects, ∑ task ∈ tasks,
    (space task).regions.countP (fun region => decide (object task region = some o)) =
      (mappings o).toNat
  reported : ∀ task ∈ tasks, ∀ region ∈ (space task).regions, ∀ o, object task region = some o →
    o ∈ objects ∧ (region.info.shareMode = SM_COW ∨ region.info.shareMode = SM_SHARED) ∧
      region.info.refCount = mappings o ∧ region.info.sharedPagesResident = resident o
  /-- Every other region is of another mode, or has no other user. -/
  others : ∀ task ∈ tasks, ∀ region ∈ (space task).regions, object task region = none →
    ¬CountsShared region.info

section
variable {Task Object : Type} [DecidableEq Object] (machine : Machine Task Object)
  (vmPageSize : UInt64)

def objectBytes (o : Object) : Nat :=
  (machine.resident o).toNat * vmPageSize.toNat

def objectShare (o : Object) : Nat :=
  objectBytes machine vmPageSize o / (machine.mappings o).toNat

def taskShares (task : Task) : Nat :=
  ((machine.space task).regions.map (fun region => (sharedShare vmPageSize region).toNat)).sum

theorem sharedShare_mapped {task : Task} (known : task ∈ machine.tasks) {region : Region}
    (member : region ∈ (machine.space task).regions) {o : Object}
    (maps : machine.object task region = some o)
    (fits : objectBytes machine vmPageSize o < 2 ^ 64) :
    (sharedShare vmPageSize region).toNat = objectShare machine vmPageSize o := by
  obtain ⟨inside, mode, count, pages⟩ := machine.reported task known region member o maps
  have shared : CountsShared region.info := by
    refine ⟨mode, ?_⟩
    rw [count, UInt32.lt_iff_toNat_lt]
    exact machine.several o inside
  unfold sharedShare objectShare
  rw [if_pos shared, UInt64.toNat_div, UInt64.toNat_mul, UInt32.toNat_toUInt64,
    UInt32.toNat_toUInt64, count, pages]
  exact congrArg (· / _) (Nat.mod_eq_of_lt fits)

theorem sharedShare_other {task : Task} (known : task ∈ machine.tasks) {region : Region}
    (member : region ∈ (machine.space task).regions)
    (maps : machine.object task region = none) : (sharedShare vmPageSize region).toNat = 0 := by
  unfold sharedShare
  rw [if_neg (machine.others task known region member maps)]
  rfl

/-- Summed over all tasks, each object is counted once for each of its regions. -/
theorem sum_taskShares (products : ∀ o ∈ machine.objects, objectBytes machine vmPageSize o < 2 ^ 64) :
    ∑ task ∈ machine.tasks, taskShares machine vmPageSize task =
      ∑ o ∈ machine.objects, (machine.mappings o).toNat * objectShare machine vmPageSize o := by
  have grouped : ∀ task ∈ machine.tasks, taskShares machine vmPageSize task =
      ∑ o ∈ machine.objects,
        (machine.space task).regions.countP
          (fun region => decide (machine.object task region = some o)) *
            objectShare machine vmPageSize o := by
    intro task known
    apply sum_by_key
    · intro region member o maps
      have inside := (machine.reported task known region member o maps).1
      exact ⟨inside, sharedShare_mapped machine vmPageSize known member maps (products o inside)⟩
    · intro region member maps
      exact sharedShare_other machine vmPageSize known member maps
  rw [Finset.sum_congr rfl grouped, Finset.sum_comm]
  apply Finset.sum_congr rfl
  intro o inside
  rw [← Finset.sum_mul, machine.counted o inside]

theorem realSharedMemory_toNat (space : AddressSpace)
    (fits : (space.regions.map (fun region => (sharedShare vmPageSize region).toNat)).sum < 2 ^ 64) :
    ((space.regions.foldl (addRegion vmPageSize) ⟨0, 0⟩).realSharedMemory).toNat =
      (space.regions.map (fun region => (sharedShare vmPageSize region).toNat)).sum := by
  have exact := foldl_toNat (addRegion vmPageSize) Totals.realSharedMemory
    (sharedShare vmPageSize) (addRegion_shared vmPageSize) space.regions ⟨0, 0⟩
    (by simpa only [UInt64.toNat_zero, Nat.zero_add] using fits)
  rw [exact]
  simp only [UInt64.toNat_zero, Nat.zero_add]

theorem share_bounds (bytes count : Nat) (positive : 0 < count) :
    count * (bytes / count) ≤ bytes ∧ bytes ≤ count * (bytes / count) + (count - 1) := by
  have split := Nat.div_add_mod bytes count
  have small := Nat.mod_lt bytes positive
  omega

/-- Proportional accounting is additive across processes: the figures of all tasks
together never exceed the resident shared memory, and miss it by less than one byte for
each mapping. -/
theorem printMemoryInfo_shared_additive (vmInfo : Task → TaskVmInfo) (fuel : Task → Nat)
    (enough : ∀ task ∈ machine.tasks, (machine.space task).regions.length < fuel task)
    (products : ∀ o ∈ machine.objects, objectBytes machine vmPageSize o < 2 ^ 64)
    (sums : ∀ task ∈ machine.tasks, taskShares machine vmPageSize task < 2 ^ 64) :
    ∃ info : Task → MemoryInfo,
      (∀ task ∈ machine.tasks,
        printMemoryInfo (steadyKernel (machine.space task) vmPageSize (vmInfo task)) (fuel task) =
          some (.ok (info task))) ∧
      ∑ task ∈ machine.tasks, (info task).totals.realSharedMemory.toNat ≤
        ∑ o ∈ machine.objects, (machine.resident o).toNat * vmPageSize.toNat ∧
      ∑ o ∈ machine.objects, (machine.resident o).toNat * vmPageSize.toNat ≤
        ∑ task ∈ machine.tasks, (info task).totals.realSharedMemory.toNat +
          ∑ o ∈ machine.objects, ((machine.mappings o).toNat - 1) := by
  refine ⟨fun task => _, fun task known =>
    printMemoryInfo_steady (machine.space task) vmPageSize (vmInfo task) (fuel task)
      (enough task known), ?_⟩
  have figures : ∑ task ∈ machine.tasks,
      ((machine.space task).regions.foldl (addRegion vmPageSize) ⟨0, 0⟩).realSharedMemory.toNat =
      ∑ o ∈ machine.objects, (machine.mappings o).toNat * objectShare machine vmPageSize o := by
    rw [← sum_taskShares machine vmPageSize products]
    apply Finset.sum_congr rfl
    intro task known
    exact realSharedMemory_toNat vmPageSize (machine.space task) (sums task known)
  simp only [figures]
  have positive : ∀ o ∈ machine.objects, 0 < (machine.mappings o).toNat := by
    intro o inside
    have := machine.several o inside
    omega
  constructor
  · apply Finset.sum_le_sum
    intro o inside
    exact (share_bounds _ _ (positive o inside)).1
  · rw [← Finset.sum_add_distrib]
    apply Finset.sum_le_sum
    intro o inside
    exact (share_bounds _ _ (positive o inside)).2

end

/-! One file of ten pages, mapped twice by the first task and once by the second. -/

def mapping (address : UInt64) : Region := ⟨address, 0xa000, ⟨3, 0, 10, SM_COW⟩⟩

def twoMappings : AddressSpace where
  regions := [mapping 0x10000, mapping 0x20000]
  ascending := ⟨by decide, by decide⟩
  fits := by decide

def oneMapping : AddressSpace where
  regions := [mapping 0x10000]
  ascending := ⟨by decide, by decide⟩
  fits := by decide

def mappedThrice : Machine Bool Unit where
  tasks := Finset.univ
  objects := Finset.univ
  space := fun second => if second then oneMapping else twoMappings
  object := fun _ _ => some ()
  resident := fun _ => 10
  mappings := fun _ => 3
  several := by decide
  counted := by decide
  reported := by
    intro task _ region member o _
    cases task
    · simp only [twoMappings, Bool.false_eq_true, ↓reduceIte, List.mem_cons, List.not_mem_nil,
        or_false] at member
      rcases member with rfl | rfl <;> exact ⟨by simp, Or.inl rfl, rfl, rfl⟩
    · simp only [oneMapping, ↓reduceIte, List.mem_singleton] at member
      subst member
      exact ⟨by simp, Or.inl rfl, rfl, rfl⟩
  others := by
    intro _ _ _ _ absent
    cases absent

theorem printMemoryInfo_shared_additive_mappedThrice :
    ∃ info : Bool → MemoryInfo,
      (∀ task ∈ mappedThrice.tasks,
        printMemoryInfo (steadyKernel (mappedThrice.space task) 4096 ⟨0, 0, 0, 0, 0, 0, 0⟩) 3 =
          some (.ok (info task))) ∧
      ∑ task ∈ mappedThrice.tasks, (info task).totals.realSharedMemory.toNat ≤
        ∑ o ∈ mappedThrice.objects, (mappedThrice.resident o).toNat * (4096 : UInt64).toNat ∧
      ∑ o ∈ mappedThrice.objects, (mappedThrice.resident o).toNat * (4096 : UInt64).toNat ≤
        ∑ task ∈ mappedThrice.tasks, (info task).totals.realSharedMemory.toNat +
          ∑ o ∈ mappedThrice.objects, ((mappedThrice.mappings o).toNat - 1) :=
  printMemoryInfo_shared_additive mappedThrice 4096 (fun _ => ⟨0, 0, 0, 0, 0, 0, 0⟩) (fun _ => 3)
    (by decide) (by decide) (by decide)

end MemoryDemo.Mach.ProportionalShare
