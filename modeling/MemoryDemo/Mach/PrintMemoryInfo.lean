import MemoryDemo.Library.Accumulator
import MemoryDemo.Mach.VmRegion

/-! `print_memory_info` of `macos/process/memory_info.cc` and of
`macos/system/activity_monitor_demo.mm`. Both walk the regions of the task twice with one
`address` variable and differ only in the lines they print about purgeable memory. -/

namespace MemoryDemo.Mach.PrintMemoryInfo
open Library.CursorWalk Library.Accumulator VmRegion

/-- The fields of `task_vm_info_data_t` that are printed. -/
structure TaskVmInfo where
  physFootprint : UInt64
  internal : UInt64
  compressed : UInt64
  ledgerPurgeableNonvolatile : Int64
  ledgerPurgeableVolatile : Int64
  purgeableVolatileResident : UInt64
  purgeableVolatileVirtual : UInt64
  deriving DecidableEq, Repr

structure Kernel where
  vmPageSize : UInt64
  taskInfo : Option TaskVmInfo
  vmRegion64 : Nat → UInt64 → Option Region

structure Totals where
  realPrivateMemory : UInt64
  realSharedMemory : UInt64
  deriving DecidableEq, Repr

/-- The first rewriting of a region: copy-on-write without another user is private. -/
def classify (info : TopInfo) : TopInfo :=
  if info.shareMode = SM_COW ∧ info.refCount = 1 then { info with shareMode := SM_PRIVATE } else info

/-- The body of the first region walk. -/
def addRegion (vmPageSize : UInt64) (totals : Totals) (region : Region) : Totals :=
  let info := classify region.info
  if info.shareMode = SM_PRIVATE then
    { totals with realPrivateMemory :=
        totals.realPrivateMemory + info.privatePagesResident.toUInt64 * vmPageSize }
  else if (info.shareMode = SM_COW ∨ info.shareMode = SM_SHARED) ∧ info.refCount > 1 then
    { totals with realSharedMemory :=
        totals.realSharedMemory +
          info.sharedPagesResident.toUInt64 * vmPageSize / info.refCount.toUInt64 }
  else totals

/-- What `print_memory_info` has computed when it prints. The last two fields are the regions
that `vm_region_64` gave the first and the second walk. -/
structure MemoryInfo where
  vmInfo : TaskVmInfo
  totals : Totals
  totalCompressed : UInt64
  firstVisited : List Region
  secondVisited : List Region
  deriving DecidableEq, Repr

/-- `print_memory_info` up to its output. The outer `none` means that the fuel of one of
the walks did not suffice. -/
def printMemoryInfo (kernel : Kernel) (fuel : Nat) : Option (Except String MemoryInfo) :=
  match kernel.taskInfo with
  | none => some (.error "获取任务信息失败2")
  | some vmInfo => do
      let first ← walk (source kernel.vmRegion64) (noting (addRegion kernel.vmPageSize)) fuel 0 0
        (⟨0, 0⟩, [])
      -- the second walk takes over `address`, and its body leaves compressed_count alone
      let second ← walk (source kernel.vmRegion64) (noting fun count _ => count) fuel first.calls
        first.cursor ((0 : UInt64), [])
      some (.ok { vmInfo := vmInfo, totals := first.state.1,
                  totalCompressed := vmInfo.compressed + second.state.1 * kernel.vmPageSize,
                  firstVisited := first.state.2, secondVisited := second.state.2 })

def megabytes (bytes : UInt64) : String := toString (bytes / 1024 / 1024) ++ " MB"

def MemoryInfo.head (info : MemoryInfo) : List String :=
  ["当前进程内存使用情况:",
    "  - 物理内存占用 (phys_footprint): " ++ megabytes info.vmInfo.physFootprint,
    "  - 常驻内存大小 (internal): " ++ megabytes info.vmInfo.internal,
    "  - 压缩内存 (compressed): " ++ megabytes info.totalCompressed,
    "  - 压缩内存 (compressed): " ++ megabytes info.vmInfo.compressed]

def MemoryInfo.tail (info : MemoryInfo) : List String :=
  ["  - 实际私有内存 (real private): " ++ megabytes info.totals.realPrivateMemory,
    "  - 实际共享内存 (real shared): " ++ toString (info.totals.realSharedMemory / 1024) ++ " KB"]

/-- The output of the version in `memory_info.cc`. -/
def MemoryInfo.lines (info : MemoryInfo) : List String :=
  info.head ++
    ["  - 可清除内存 (purgeable_nonvolatile): " ++
        toString (info.vmInfo.ledgerPurgeableNonvolatile / 1024 / 1024).toInt ++ " MB",
      "  - 可清除内存 (purgeable_nonvolatile1): " ++
        megabytes (info.vmInfo.purgeableVolatileResident + info.vmInfo.purgeableVolatileVirtual)] ++
    info.tail

/-- The output of the version in the system monitor. -/
def MemoryInfo.monitorLines (info : MemoryInfo) : List String :=
  info.head ++
    ["  - 可清除内存 (purgeable_nonvolatile1): " ++
        toString (info.vmInfo.ledgerPurgeableNonvolatile / 1024 / 1024).toInt ++ " MB",
      "  - 可清除内存 (purgeable_volatile_resident): " ++
        toString info.vmInfo.purgeableVolatileResident ++ " B",
      "  - 可清除内存 (ledger_purgeable_volatile): " ++
        toString info.vmInfo.ledgerPurgeableVolatile.toInt ++ " B"] ++
    info.tail

/-- The regions whose private pages, and whose shared pages, the walk adds up. -/
def CountsPrivate (info : TopInfo) : Prop :=
  info.shareMode = SM_PRIVATE ∨ (info.shareMode = SM_COW ∧ info.refCount = 1)

def CountsShared (info : TopInfo) : Prop :=
  (info.shareMode = SM_COW ∨ info.shareMode = SM_SHARED) ∧ 1 < info.refCount

instance (info : TopInfo) : Decidable (CountsPrivate info) :=
  inferInstanceAs (Decidable (_ ∨ _))

instance (info : TopInfo) : Decidable (CountsShared info) :=
  inferInstanceAs (Decidable (_ ∧ _))

def privateShare (vmPageSize : UInt64) (region : Region) : UInt64 :=
  if CountsPrivate region.info then region.info.privatePagesResident.toUInt64 * vmPageSize else 0

def sharedShare (vmPageSize : UInt64) (region : Region) : UInt64 :=
  if CountsShared region.info then
    region.info.sharedPagesResident.toUInt64 * vmPageSize / region.info.refCount.toUInt64
  else 0

theorem classify_counts (info : TopInfo) :
    (classify info).refCount = info.refCount ∧
      (classify info).privatePagesResident = info.privatePagesResident ∧
      (classify info).sharedPagesResident = info.sharedPagesResident := by
  unfold classify
  split <;> exact ⟨rfl, rfl, rfl⟩

theorem classify_private (info : TopInfo) :
    (classify info).shareMode = SM_PRIVATE ↔ CountsPrivate info := by
  unfold classify CountsPrivate
  split
  next alone => simp [alone]
  next other => simp [other]

theorem not_countsShared {info : TopInfo} (counted : CountsPrivate info) : ¬CountsShared info := by
  rintro ⟨mode, others⟩
  rcases counted with isPrivate | ⟨_, alone⟩
  · rw [isPrivate] at mode
    exact absurd mode (by decide)
  · rw [alone] at others
    exact absurd others (by decide)

theorem classify_other {info : TopInfo} (other : ¬CountsPrivate info) : classify info = info :=
  if_neg (fun alone => other (Or.inr alone))

theorem addRegion_private (vmPageSize : UInt64) (totals : Totals) (region : Region) :
    (addRegion vmPageSize totals region).realPrivateMemory =
      totals.realPrivateMemory + privateShare vmPageSize region := by
  simp only [addRegion, classify_private, classify_counts, privateShare]
  by_cases counted : CountsPrivate region.info
  · simp only [if_pos counted]
  · simp only [if_neg counted, UInt64.add_zero]
    split <;> rfl

theorem addRegion_shared (vmPageSize : UInt64) (totals : Totals) (region : Region) :
    (addRegion vmPageSize totals region).realSharedMemory =
      totals.realSharedMemory + sharedShare vmPageSize region := by
  simp only [addRegion, classify_private, classify_counts, sharedShare]
  by_cases counted : CountsPrivate region.info
  · simp only [if_pos counted, if_neg (not_countsShared counted), UInt64.add_zero]
  · have sharing : (((classify region.info).shareMode = SM_COW ∨
        (classify region.info).shareMode = SM_SHARED) ∧ region.info.refCount > 1) ↔
          CountsShared region.info := by
      rw [classify_other counted]
      rfl
    simp only [if_neg counted, sharing]
    split
    · rfl
    · simp only [UInt64.add_zero]

def steadyKernel (space : AddressSpace) (vmPageSize : UInt64) (vmInfo : TaskVmInfo) : Kernel where
  vmPageSize := vmPageSize
  taskInfo := some vmInfo
  vmRegion64 := space.steady

/-- The regions that the two walks were served, the second from where the first has ended. -/
def ServesWalks (vmRegion64 : Nat → UInt64 → Option Region) (info : MemoryInfo) : Prop :=
  ∃ turn last, Serves (source vmRegion64) 0 0 info.firstVisited turn ∧
    Serves (source vmRegion64) (info.firstVisited.length + 1) turn info.secondVisited last

theorem foldl_idle (regions : List Region) (count : UInt64) :
    regions.foldl (fun count _ => count) count = count := by
  induction regions with
  | nil => rfl
  | cons region rest ih => exact ih

/-- What the kernel serves the two walks, the second from where the first has ended, is what
`print_memory_info` visits and computes its figures from. -/
theorem printMemoryInfo_of_serves (kernel : Kernel) (vmInfo : TaskVmInfo)
    (known : kernel.taskInfo = some vmInfo) {first second : List Region} {turn last : UInt64}
    (served : Serves (source kernel.vmRegion64) 0 0 first turn)
    (again : Serves (source kernel.vmRegion64) (first.length + 1) turn second last) (fuel : Nat)
    (enough : first.length < fuel) (more : second.length < fuel) :
    printMemoryInfo kernel fuel =
      some (.ok { vmInfo := vmInfo,
                  totals := first.foldl (addRegion kernel.vmPageSize) ⟨0, 0⟩,
                  totalCompressed := vmInfo.compressed,
                  firstVisited := first, secondVisited := second }) := by
  have ended := walk_of_serves _ (noting (addRegion kernel.vmPageSize)) served fuel enough
    (⟨0, 0⟩, [])
  have closed := walk_of_serves _ (noting fun (count : UInt64) (_ : Region) => count) again fuel more
    (0, [])
  rw [Nat.zero_add] at ended
  simp only [printMemoryInfo, known, ended, closed, foldl_noting, foldl_idle, Option.bind_eq_bind,
    Option.bind_some, List.nil_append, UInt64.zero_mul, UInt64.add_zero]

/-- Where `print_memory_info` reports, its walks were served what it has visited. -/
theorem serves_of_printMemoryInfo {kernel : Kernel} {fuel : Nat} {info : MemoryInfo}
    (printed : printMemoryInfo kernel fuel = some (.ok info)) :
    kernel.taskInfo = some info.vmInfo ∧
      info.totals = info.firstVisited.foldl (addRegion kernel.vmPageSize) ⟨0, 0⟩ ∧
      info.totalCompressed = info.vmInfo.compressed ∧ ServesWalks kernel.vmRegion64 info := by
  unfold printMemoryInfo at printed
  split at printed
  next => cases printed
  next vmInfo known =>
    obtain ⟨first, ended, printed⟩ := Option.bind_eq_some_iff.mp printed
    obtain ⟨second, closed, printed⟩ := Option.bind_eq_some_iff.mp printed
    cases printed
    obtain ⟨visited, served, computed, counted⟩ := serves_of_walk _ _ ended
    obtain ⟨seen, again, idle, -⟩ := serves_of_walk _ _ closed
    rw [foldl_noting, List.nil_append] at computed idle
    rw [counted, Nat.zero_add] at again
    simp only [computed, idle, foldl_idle, UInt64.zero_mul, UInt64.add_zero, true_and, known]
    exact ⟨_, _, served, again⟩

/-- Both versions print the compressed size of the task in both of their lines about it. -/
structure CompressedTwice (info : MemoryInfo) (text : String) : Prop where
  lines : info.lines[3]? = some text ∧ info.lines[4]? = some text
  monitorLines : info.monitorLines[3]? = some text ∧ info.monitorLines[4]? = some text

/-- Whatever the second walk is served. -/
theorem printMemoryInfo_compressedTwice {kernel : Kernel} {fuel : Nat} {info : MemoryInfo}
    (printed : printMemoryInfo kernel fuel = some (.ok info)) :
    CompressedTwice info ("  - 压缩内存 (compressed): " ++ megabytes info.vmInfo.compressed) := by
  obtain ⟨-, -, same, -⟩ := serves_of_printMemoryInfo printed
  constructor
  · simp only [MemoryInfo.lines, MemoryInfo.head, same, List.cons_append,
      List.getElem?_cons_succ, List.getElem?_cons_zero, and_self]
  · simp only [MemoryInfo.monitorLines, MemoryInfo.head, same, List.cons_append,
      List.getElem?_cons_succ, List.getElem?_cons_zero, and_self]

/-- On an unchanging address space the first walk folds over all regions, and the second
one, which starts where the first one stopped, sees none. -/
theorem printMemoryInfo_steady (space : AddressSpace) (vmPageSize : UInt64) (vmInfo : TaskVmInfo)
    (fuel : Nat) (enough : space.regions.length < fuel) :
    printMemoryInfo (steadyKernel space vmPageSize vmInfo) fuel =
      some (.ok { vmInfo := vmInfo,
                  totals := space.regions.foldl (addRegion vmPageSize) ⟨0, 0⟩,
                  totalCompressed := vmInfo.compressed,
                  firstVisited := space.regions, secondVisited := [] }) :=
  printMemoryInfo_of_serves (steadyKernel space vmPageSize vmInfo) vmInfo rfl (space.serves 0)
    (space.serves_end _) fuel enough (Nat.zero_lt_of_lt enough)

end MemoryDemo.Mach.PrintMemoryInfo
