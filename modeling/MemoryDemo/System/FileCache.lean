import MemoryDemo.Library.Streams
import MemoryDemo.System.FileMapReports

/-! `IncreaseCachedFiles` of `macos/system/activity_monitor_demo.mm`, which fills a temporary
file and reads it back, and the report of `TestFileCache` on what that did to the cache. -/

namespace MemoryDemo.System.FileCache
open Library.Streams Metrics FileMapReports

/-- What the file system does with the file: whether each stream opens, how many bytes it
takes of each write, and how many it delivers to each read if the file has that many left. -/
structure FileSystem where
  opensOutput : Bool
  accepts : Nat → Nat
  opensInput : Bool
  delivers : Nat → Nat

/-- What a call returns, the length of the file it leaves, and what its loop has read. -/
structure Outcome where
  returned : Bool
  fileLength : Option Nat
  bytesRead : Nat
  deriving DecidableEq, Repr

/-- The size of `buffer`, 1 MB. -/
def bufferSize : UInt64 := 1024 * 1024

/-- The write loop. -/
def fill (fs : FileSystem) (size : UInt64) : OutputStream :=
  writes fs.accepts 0 (List.replicate (size / bufferSize).toNat bufferSize.toNat) .fresh

/-- A file that cannot be read back is unlinked; otherwise it stays. -/
def increaseCachedFiles (fs : FileSystem) (size : UInt64) : Outcome :=
  if fs.opensOutput = false then
    ⟨false, none, 0⟩
  else
    let file := fill fs size
    if fs.opensInput = false then
      ⟨false, none, 0⟩
    else
      ⟨true, some file.length, reads fs.delivers 1024 0 file.length⟩

/-- The size that `TestFileCache` asks for, 500 MB. -/
def testSize : UInt64 := 500 * 1024 * 1024

def testFileCache (fs : FileSystem) (before after : MemoryMetrics) : List Line :=
  if (increaseCachedFiles fs testSize).returned = false then
    [.text "增加文件缓存失败"]
  else
    [cachedRow [before, after],
      .change "变化: 已缓存文件 " (.megabytes (after.cachedFiles - before.cachedFiles).toInt)
        " (预期约500MB)"]

/-- A call that returns `true` has left a file of the size, and read all of it. -/
def Complete (outcome : Outcome) (size : UInt64) : Prop :=
  outcome.returned = true →
    outcome.fileLength = some size.toNat ∧ outcome.bytesRead = size.toNat

theorem fill_length (fs : FileSystem) (size : UInt64) :
    (fill fs size).length ≤ size.toNat / 2 ^ 20 * 2 ^ 20 ∧
      ((fill fs size).length = size.toNat / 2 ^ 20 * 2 ^ 20 ↔
        ∀ index < size.toNat / 2 ^ 20, 2 ^ 20 ≤ fs.accepts index) := by
  have count : (size / bufferSize).toNat = size.toNat / 2 ^ 20 := UInt64.toNat_div _ _
  rw [fill, count]
  have bound := writes_length_le fs.accepts 0
    (List.replicate (size.toNat / 2 ^ 20) bufferSize.toNat) .fresh
  rw [List.sum_replicate_nat, OutputStream.fresh, Nat.zero_add] at bound
  exact ⟨bound, writes_replicate_length_eq_iff fs.accepts (size.toNat / 2 ^ 20) bufferSize.toNat⟩

/-- The loop never gets beyond the last whole chunk of 1 MB. -/
theorem fill_length_eq_iff (fs : FileSystem) (size : UInt64) :
    (fill fs size).length = size.toNat ↔
      2 ^ 20 ∣ size.toNat ∧ ∀ index < size.toNat / 2 ^ 20, 2 ^ 20 ≤ fs.accepts index := by
  obtain ⟨bound, exact_iff⟩ := fill_length fs size
  have floor := Nat.div_mul_le_self size.toNat (2 ^ 20)
  by_cases whole : 2 ^ 20 ∣ size.toNat
  · rw [Nat.div_mul_cancel whole] at exact_iff
    rw [exact_iff]
    exact ⟨fun taken => ⟨whole, taken⟩, fun both => both.2⟩
  · constructor
    · intro same
      have reached : size.toNat / 2 ^ 20 * 2 ^ 20 = size.toNat := by omega
      exact absurd (Dvd.intro_left _ reached) whole
    · intro both
      exact absurd both.1 whole

/-- Nothing looks at the state of either stream: the call keeps its word only where an
opening fails, or the size is in whole megabytes and no write and no read is short. -/
theorem increaseCachedFiles_complete_iff (fs : FileSystem) (size : UInt64) :
    Complete (increaseCachedFiles fs size) size ↔
      fs.opensOutput = false ∨ fs.opensInput = false ∨
        (2 ^ 20 ∣ size.toNat ∧ (∀ index < size.toNat / 2 ^ 20, 2 ^ 20 ≤ fs.accepts index) ∧
          ∀ index < size.toNat / 1024, 1024 ≤ fs.delivers index) := by
  cases output : fs.opensOutput with
  | false =>
    rw [increaseCachedFiles, if_pos output]
    exact ⟨fun _ => Or.inl rfl, fun _ => nofun⟩
  | true =>
    cases input : fs.opensInput with
    | false =>
      rw [increaseCachedFiles, if_neg (by simp [output]), if_pos input]
      exact ⟨fun _ => Or.inr (Or.inl rfl), fun _ => nofun⟩
    | true =>
      rw [increaseCachedFiles, if_neg (by simp [output]), if_neg (by simp [input])]
      simp only [Complete, Option.some.injEq, Bool.true_eq_false, false_or, forall_true_left]
      rw [fill_length_eq_iff, and_assoc]
      apply and_congr_right
      intro whole
      apply and_congr_right
      intro taken
      rw [(fill_length_eq_iff fs size).mpr ⟨whole, taken⟩]
      have chunks : size.toNat / 1024 * 1024 = size.toNat :=
        Nat.div_mul_cancel (Dvd.dvd.trans (by decide) whole)
      have read := reads_eq_iff fs.delivers 1024 0 (size.toNat / 1024)
      simp only [chunks, Nat.zero_add] at read
      exact read

/-- Both streams open, and no byte is written. -/
def fullDisk : FileSystem where
  opensOutput := true
  accepts _ := 0
  opensInput := true
  delivers _ := 1024

/-- On a full disk the call returns `true` with nothing in the file, and the test reports
the change of the cache as one of about 500 MB. -/
theorem fullDisk_returns_true :
    increaseCachedFiles fullDisk testSize = ⟨true, some 0, 0⟩ ∧
      ¬ Complete (increaseCachedFiles fullDisk testSize) testSize ∧
      ∀ before after, testFileCache fullDisk before after =
        [cachedRow [before, after],
          .change "变化: 已缓存文件 " (.megabytes (after.cachedFiles - before.cachedFiles).toInt)
            " (预期约500MB)"] := by
  have empty : (fill fullDisk testSize).length = 0 := writes_none_length 0 _ .fresh
  have nothing : reads fullDisk.delivers 1024 0 0 = 0 := Nat.le_zero.mp (reads_le _ _ _ _)
  have outcome : increaseCachedFiles fullDisk testSize = ⟨true, some 0, 0⟩ := by
    rw [increaseCachedFiles, if_neg (by decide), if_neg (by decide)]
    simp only [empty, nothing]
  refine ⟨outcome, ?_, fun before after => ?_⟩
  · rw [outcome]
    intro complete
    exact absurd (complete rfl).2 (by decide)
  · rw [testFileCache, outcome]
    rfl

end MemoryDemo.System.FileCache
