import Mathlib.Data.List.Basic

/-! `printProcessMemoryInfo` of `windows/process/process_memory_monitor.cpp`, on a 64-bit
build: `SIZE_T` has 64 bits, `DWORD` has 32. -/

namespace MemoryDemo.Windows.ProcessMonitor

/-- The fields of `PROCESS_MEMORY_COUNTERS_EX` that are read. -/
structure MemoryCounters where
  workingSetSize : UInt64
  privateUsage : UInt64
  pagefileUsage : UInt64
  deriving DecidableEq, Repr

/-- `PSAPI_WORKING_SET_BLOCK`: the `Shared` bit and the three bits of `ShareCount`. -/
structure Block where
  shared : Bool
  shareCount : Fin 8
  deriving DecidableEq, Repr

/-- The working set at the moment of a query, or the error the query meets. -/
inductive WorkingSet where
  | denied (code : UInt32)
  | entries (blocks : List Block)
  deriving DecidableEq, Repr

def ERROR_BAD_LENGTH : UInt32 := 24

/-- `sizeof(PSAPI_WORKING_SET_INFORMATION)`, which has room for one block. -/
def informationSize : UInt64 := 16

/-- `sizeof(PSAPI_WORKING_SET_BLOCK)`. -/
def blockSize : UInt64 := 8

/-- `QueryWorkingSet` needs eight bytes for the count and eight for every entry. -/
def queryWorkingSet (set : WorkingSet) (cb : UInt32) : Except UInt32 (List Block) :=
  match set with
  | .denied code => .error code
  | .entries blocks =>
      if cb.toNat < 8 + 8 * blocks.length then .error ERROR_BAD_LENGTH else .ok blocks

/-- The answers one run receives. The working set is read twice and may change between. -/
structure Win32 where
  getProcessMemoryInfo : Except UInt32 MemoryCounters
  firstSet : WorkingSet
  malloc : UInt64 → Option UInt64
  secondSet : WorkingSet

/-- The amounts that are printed, before they are formatted. -/
structure Metrics where
  virtualAddress : UInt64
  committed : UInt64
  privateBytes : UInt64
  totalWorkingSet : UInt64
  privateWorkingSet : UInt64
  shareableWorkingSet : UInt64
  sharedWorkingSet : UInt64
  deriving DecidableEq, Repr

inductive Outcome where
  | memoryInfoFailed (code : UInt32)
  | queryFailed (code : UInt32)
  | mallocFailed
  | detailsFailed (code : UInt32)
  | detailed (metrics : Metrics)
  | estimated (metrics : Metrics)
  deriving DecidableEq, Repr

/-- The text on the error stream. -/
def Outcome.error : Outcome → Option String
  | .memoryInfoFailed code => some ("获取进程内存信息失败，错误码: " ++ toString code)
  | .queryFailed code => some ("查询工作集信息失败，错误码: " ++ toString code)
  | .mallocFailed => some "内存分配失败"
  | .detailsFailed code => some ("查询工作集详细信息失败，错误码: " ++ toString code)
  | .detailed _ => none
  | .estimated _ => none

/-- `dwWorkingSetInfoSize`: computed with 64 bits, kept in 32. -/
def dwWorkingSetInfoSize (counters : MemoryCounters) : UInt32 :=
  (informationSize + (counters.workingSetSize / 4096 + 100) * blockSize).toUInt32

structure PageCounts where
  sharedPages : UInt64
  privatePages : UInt64
  deriving DecidableEq, Repr

def countPage (counts : PageCounts) (block : Block) : PageCounts :=
  if block.shared then { counts with sharedPages := counts.sharedPages + 1 }
  else { counts with privatePages := counts.privatePages + 1 }

def countPages (blocks : List Block) : PageCounts :=
  blocks.foldl countPage ⟨0, 0⟩

def detailedMetrics (counters : MemoryCounters) (blocks : List Block) : Metrics :=
  let pages := countPages blocks
  let sharedWorkingSetSize := pages.sharedPages * 4096
  let privateWorkingSetSize := pages.privatePages * 4096
  { virtualAddress := counters.privateUsage + counters.workingSetSize
    committed := counters.pagefileUsage
    privateBytes := counters.privateUsage
    totalWorkingSet := counters.workingSetSize
    privateWorkingSet := privateWorkingSetSize
    shareableWorkingSet := counters.workingSetSize - privateWorkingSetSize
    sharedWorkingSet := sharedWorkingSetSize }

def estimatedMetrics (counters : MemoryCounters) : Metrics where
  virtualAddress := counters.privateUsage + counters.workingSetSize
  committed := counters.pagefileUsage
  privateBytes := counters.privateUsage
  totalWorkingSet := counters.workingSetSize
  privateWorkingSet := counters.workingSetSize
  shareableWorkingSet := 0
  sharedWorkingSet := 0

/-- The part behind the first query, once it has failed with `ERROR_BAD_LENGTH`. -/
def queryDetails (env : Win32) (counters : MemoryCounters) : Outcome :=
  let size := dwWorkingSetInfoSize counters
  match env.malloc size.toUInt64 with
  | none => .mallocFailed
  | some _ =>
      match queryWorkingSet env.secondSet size with
      | .error code => .detailsFailed code
      | .ok blocks => .detailed (detailedMetrics counters blocks)

def printProcessMemoryInfo (env : Win32) : Outcome :=
  match env.getProcessMemoryInfo with
  | .error code => .memoryInfoFailed code
  | .ok counters =>
      match queryWorkingSet env.firstSet informationSize.toUInt32 with
      | .ok _ => .estimated (estimatedMetrics counters)
      | .error code =>
          if code ≠ ERROR_BAD_LENGTH then .queryFailed code else queryDetails env counters

theorem queryWorkingSet_ok {set : WorkingSet} {cb : UInt32} {blocks : List Block}
    (succeeds : queryWorkingSet set cb = .ok blocks) :
    set = .entries blocks ∧ 8 + 8 * blocks.length ≤ cb.toNat := by
  cases set with
  | denied code => simp [queryWorkingSet] at succeeds
  | entries listed =>
    simp only [queryWorkingSet] at succeeds
    split at succeeds
    · cases succeeds
    · next room =>
      cases succeeds
      exact ⟨rfl, Nat.not_lt.mp room⟩

/-- What a run on the detailed path has read. -/
theorem printProcessMemoryInfo_detailed {env : Win32} {metrics : Metrics}
    (run : printProcessMemoryInfo env = .detailed metrics) :
    ∃ counters blocks, env.getProcessMemoryInfo = .ok counters ∧ env.secondSet = .entries blocks ∧
      8 + 8 * blocks.length ≤ (dwWorkingSetInfoSize counters).toNat ∧
      metrics = detailedMetrics counters blocks := by
  unfold printProcessMemoryInfo at run
  split at run
  · cases run
  · next counters read =>
    split at run
    · cases run
    · split at run
      · cases run
      · simp only [queryDetails] at run
        split at run
        · cases run
        · split at run
          · cases run
          · next blocks succeeds =>
            obtain ⟨listed, room⟩ := queryWorkingSet_ok succeeds
            cases run
            exact ⟨counters, blocks, read, listed, room, rfl⟩

end MemoryDemo.Windows.ProcessMonitor
