import MemoryDemo.Library.Streams
import MemoryDemo.Library.Stride
import MemoryDemo.Windows.AllocationDemos

/-! The chunks in which the Windows `createTempFile` writes its file: the indices of the loop,
the lengths of its writes, and the length of the file. -/

namespace MemoryDemo.Windows.TempFileChunks
open Library.CallTree Library.CursorWalk Library.Stride Library.Streams Calls AllocationDemos

/-- `writeSize` at index `i`. -/
def writeSize (sizeBytes i : UInt64) : UInt64 :=
  if i + bufferSize > sizeBytes then sizeBytes - i else bufferSize

/-- The write at index `i`. -/
def writeAt (file : Nat) (sizeBytes i : UInt64) : Step :=
  ⟨.writeStream file (writeSize sizeBytes i), ()⟩

theorem writeChunks_succ (file : Nat) {sizeBytes i : UInt64} (below : i < sizeBytes)
    (rounds : Nat) (environment : Environment Call Answer) (past : List Step) :
    run environment past (writeChunks file sizeBytes (rounds + 1) i) =
      ⟨writeAt file sizeBytes i ::
          (run environment (past ++ [writeAt file sizeBytes i])
            (writeChunks file sizeBytes rounds (i + bufferSize))).log,
        (run environment (past ++ [writeAt file sizeBytes i])
          (writeChunks file sizeBytes rounds (i + bufferSize))).result⟩ := by
  rw [writeChunks, if_pos below]
  rfl

/-- The loop writes once at each index that a loop of the same stride sees. -/
theorem writeChunks_run (file : Nat) {sizeBytes : UInt64} {calls : Nat} {i last : UInt64}
    {seen : List UInt64} (served : Serves (stride sizeBytes bufferSize) calls i seen last)
    {rounds : Nat} (enough : seen.length < rounds) (environment : Environment Call Answer)
    (past : List Step) :
    run environment past (writeChunks file sizeBytes rounds i) =
      ⟨seen.map (writeAt file sizeBytes), some ()⟩ := by
  induction served generalizing rounds past with
  | @fails calls i silent =>
    obtain ⟨rounds, rfl⟩ : ∃ n, rounds = n + 1 := ⟨rounds - 1, by omega⟩
    rw [writeChunks, if_neg (UInt64.not_lt.mpr (stride_none silent))]
    rfl
  | @answers calls i last index rest given later ih =>
    obtain ⟨rounds, rfl⟩ : ∃ n, rounds = n + 1 := ⟨rounds - 1, by omega⟩
    obtain ⟨rfl, below⟩ := stride_some given
    have one : run environment (past ++ [writeAt file sizeBytes index])
        (writeChunks file sizeBytes rounds (index + bufferSize)) = _ :=
      ih (Nat.lt_of_succ_lt_succ enough) (past ++ [writeAt file sizeBytes index])
    rw [writeChunks_succ file below, one]
    rfl

section
variable {sizeBytes : UInt64} (bounded : sizeBytes.toNat + 4095 ≤ 2 ^ 64 - 1)
include bounded

theorem writeSize_toNat {i : UInt64} (below : i < sizeBytes) :
    (writeSize sizeBytes i).toNat = min 4096 (sizeBytes.toNat - i.toNat) := by
  have next := next_index (by omega) below
  have order := UInt64.lt_iff_toNat_lt.mp below
  unfold writeSize
  split
  next beyond =>
    have more : sizeBytes.toNat < (i + bufferSize).toNat := UInt64.lt_iff_toNat_lt.mp beyond
    rw [UInt64.toNat_sub_of_le _ _ (UInt64.le_iff_toNat_le.mpr (Nat.le_of_lt order))]
    omega
  next inside =>
    have fits : (i + bufferSize).toNat ≤ sizeBytes.toNat :=
      UInt64.le_iff_toNat_le.mp (UInt64.not_lt.mp inside)
    change 4096 = _
    omega

/-- From any index on, the writes make up what is left of the size. -/
theorem writeSize_sum {calls : Nat} {i last : UInt64} {seen : List UInt64}
    (served : Serves (stride sizeBytes bufferSize) calls i seen last) :
    (seen.map fun index => (writeSize sizeBytes index).toNat).sum =
      sizeBytes.toNat - i.toNat := by
  induction served with
  | fails silent =>
    have beyond := UInt64.le_iff_toNat_le.mp (stride_none silent)
    exact (Nat.sub_eq_zero_of_le beyond).symm
  | @answers calls i last index rest given later ih =>
    obtain ⟨rfl, below⟩ := stride_some given
    have next := next_index (by omega) below
    change _ = sizeBytes.toNat - (index + bufferSize).toNat at ih
    rw [List.map_cons, List.sum_cons, ih, writeSize_toNat bounded below, next]
    omega

/-- The indices at which the loop writes: none of them wraps, every write is between 1 and 4096
bytes long, and all of them together have the size. -/
theorem chunks_of_serves {calls : Nat} {last : UInt64} {seen : List UInt64}
    (served : Serves (stride sizeBytes bufferSize) calls 0 seen last) :
    (∀ i ∈ seen, (i + bufferSize).toNat = i.toNat + bufferSize.toNat ∧
      1 ≤ (writeSize sizeBytes i).toNat ∧ (writeSize sizeBytes i).toNat ≤ 4096) ∧
    (seen.map fun i => (writeSize sizeBytes i).toNat).sum = sizeBytes.toNat := by
  have step : bufferSize.toNat = 4096 := rfl
  constructor
  · intro i member
    have below := ((mem_of_serves (by rw [step]; omega) served i).mp member).1
    have order := UInt64.lt_iff_toNat_lt.mp below
    have length := writeSize_toNat bounded below
    exact ⟨next_index (by omega) below, by omega, by omega⟩
  · rw [writeSize_sum bounded served, UInt64.toNat_zero, Nat.sub_zero]

/-- The part behind the opening: exactly the writes of the loop, and the closing. -/
theorem fillTempFile_run (file : Nat) (tempFileName : String)
    (environment : Environment Call Answer) (past : List Step) :
    ∃ seen : List UInt64, run environment past (fillTempFile file tempFileName sizeBytes) =
        ⟨seen.map (writeAt file sizeBytes) ++ [⟨.closeStream file, ()⟩], some tempFileName⟩ ∧
      ∃ last, Serves (stride sizeBytes bufferSize) 0 0 seen last := by
  have step : bufferSize.toNat = 4096 := rfl
  obtain ⟨seen, last, served, few⟩ := serves_of_bounded sizeBytes bufferSize
    (by rw [step]; omega) (by rw [step]; omega)
  rw [step] at few
  have written := writeChunks_run file served
    (show seen.length < sizeBytes.toNat / 4096 + 2 by omega) environment past
  refine ⟨seen, ?_, last, served⟩
  rw [fillTempFile, run_bind environment past _ _ (by rw [written]), written]
  rfl

end

/-- The lengths of the writes to a stream, in their order. -/
def writtenTo (file : Nat) (log : List Step) : List Nat :=
  log.filterMap fun
    | ⟨.writeStream id bytes, _⟩ => if id = file then some bytes.toNat else none
    | _ => none

/-- The length of the file behind a stream that has been opened on a new file. -/
def fileLength (accepts : Nat → Nat) (file : Nat) (log : List Step) : Nat :=
  (writes accepts 0 (writtenTo file log) .fresh).length

/-- The stream takes all writes in full. -/
def TakesAll (accepts : Nat → Nat) (sizes : List Nat) : Prop :=
  ∀ call (inside : call < sizes.length), sizes[call] ≤ accepts call

theorem writtenTo_writes (file : Nat) (sizeBytes : UInt64) (seen : List UInt64) :
    writtenTo file (seen.map (writeAt file sizeBytes)) =
      seen.map fun i => (writeSize sizeBytes i).toNat := by
  induction seen with
  | nil => rfl
  | cons i rest ih =>
    rw [List.map_cons, List.map_cons, ← ih]
    exact List.filterMap_cons_some (if_pos rfl)

/-- A stream that takes all writes holds what has been written to it. -/
theorem fileLength_of_takesAll {accepts : Nat → Nat} {file : Nat} {log : List Step}
    (takes : TakesAll accepts (writtenTo file log)) :
    fileLength accepts file log = (writtenTo file log).sum := by
  have whole := writes_length_eq_iff accepts 0 (writtenTo file log)
    (show OutputStream.fresh.good = true from rfl)
  rw [show OutputStream.fresh.length = 0 from rfl, Nat.zero_add] at whole
  apply whole.mpr
  intro call inside
  rw [Nat.zero_add]
  exact takes call inside

/-- What a run of `createTempFile` does behind its call to open the stream. A stream that opens is
written to chunk by chunk, in writes of 1 to 4096 bytes at indices that do not wrap, and closed;
if it takes all writes, then its file is exactly as long as it was to be. -/
def Filled (sizeBytes : UInt64) (path : String) (rest : List Step) (result : Option String) :
    Option Nat → Prop
  | none => rest = [] ∧ result = some ""
  | some file => result = some path ∧
    (∃ seen : List UInt64,
      rest = seen.map (writeAt file sizeBytes) ++ [⟨.closeStream file, ()⟩] ∧
      ∀ i ∈ seen, (i + bufferSize).toNat = i.toNat + bufferSize.toNat ∧
        1 ≤ (writeSize sizeBytes i).toNat ∧ (writeSize sizeBytes i).toNat ≤ 4096) ∧
    ∀ accepts : Nat → Nat, TakesAll accepts (writtenTo file rest) →
      fileLength accepts file rest = sizeBytes.toNat

theorem filled_of_run {sizeBytes : UInt64} (bounded : sizeBytes.toNat + 4095 ≤ 2 ^ 64 - 1)
    (file : Nat) (path : String) (environment : Environment Call Answer) (past : List Step) :
    Filled sizeBytes path (run environment past (fillTempFile file path sizeBytes)).log
      (run environment past (fillTempFile file path sizeBytes)).result (some file) := by
  obtain ⟨seen, ran, last, served⟩ := fillTempFile_run bounded file path environment past
  obtain ⟨lengths, sum⟩ := chunks_of_serves bounded served
  rw [ran]
  refine ⟨rfl, ⟨seen, rfl, lengths⟩, fun accepts takes => ?_⟩
  rw [fileLength_of_takesAll takes]
  change (writtenTo file (_ ++ _)).sum = _
  rw [writtenTo, List.filterMap_append, ← writtenTo, writtenTo_writes, List.sum_append, sum]
  rfl

/-- In every environment: `createTempFile` asks for a name and opens a stream, and where that is
granted it fills the file and comes back with its name. -/
theorem createTempFile_chunks {sizeBytes : UInt64} (bounded : sizeBytes.toNat + 4095 ≤ 2 ^ 64 - 1)
    (environment : Environment Call Answer) (past : List Step) :
    ∃ tempPath tempFileName opened rest,
      (run environment past (createTempFile sizeBytes)).log =
        ⟨.getTempPath, tempPath⟩ :: ⟨.getTempFileName tempPath "mem", tempFileName⟩ ::
          ⟨.openOutput tempFileName.path, opened⟩ :: rest ∧
      Filled sizeBytes tempFileName.path rest
        (run environment past (createTempFile sizeBytes)).result opened := by
  obtain ⟨tempPath, path⟩ : ∃ tempPath, environment past .getTempPath = tempPath := ⟨_, rfl⟩
  obtain ⟨tempFileName, name⟩ : ∃ tempFileName,
      environment (past ++ [⟨.getTempPath, tempPath⟩]) (.getTempFileName tempPath "mem") =
        tempFileName := ⟨_, rfl⟩
  obtain ⟨opened, answered⟩ : ∃ opened,
      environment (past ++ [⟨.getTempPath, tempPath⟩] ++
        [⟨.getTempFileName tempPath "mem", tempFileName⟩]) (.openOutput tempFileName.path) =
          opened := ⟨_, rfl⟩
  unfold createTempFile
  rw [getTempPath, run_ask environment past _ _ path, getTempFileName,
    run_ask environment _ _ _ name, openOutput, run_ask environment _ _ _ answered]
  refine ⟨tempPath, tempFileName, opened, _, rfl, ?_⟩
  cases opened with
  | none => exact ⟨rfl, rfl⟩
  | some file => exact filled_of_run bounded file tempFileName.path environment _

/-- Every stream opens. -/
def opening : Environment Call Answer := fun past request =>
  match request with
  | .openOutput _ => some 3
  | request => refusing past request

theorem createTempFile_chunks_short :
    (run opening [] (createTempFile 5000)).result = some "C:\\TEMP\\mem1A2B.tmp" ∧
      fileLength (fun _ => 4096) 3 (run opening [] (createTempFile 5000)).log = 5000 ∧
      ∃ tempPath tempFileName opened rest,
        (run opening [] (createTempFile 5000)).log =
          ⟨.getTempPath, tempPath⟩ :: ⟨.getTempFileName tempPath "mem", tempFileName⟩ ::
            ⟨.openOutput tempFileName.path, opened⟩ :: rest ∧
        Filled 5000 tempFileName.path rest
          (run opening [] (createTempFile 5000)).result opened :=
  ⟨by decide, by decide, createTempFile_chunks (by decide) opening []⟩

end MemoryDemo.Windows.TempFileChunks
