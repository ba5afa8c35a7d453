import MemoryDemo.Library.Leftovers
import MemoryDemo.Windows.AllocationDemos

/-! What is left on the disk when a program has called any demos of
`windows/process/memory_allocation_demo.cpp` one after another. -/

namespace MemoryDemo.Windows.DemoSequences
open Library.CallTree Library.Ledger Library.Leftovers Calls AllocationDemos

/-- The file behind a name whose stream does not open. -/
def unopened : Step → Option Resource
  | ⟨.openOutput path, none⟩ => some (.tempFile path)
  | _ => none

/-- The body of a `main` that calls the demos one after another. -/
def runDemos : List Demo → Action Unit
  | [] => return ()
  | demo :: demos => do
    demo.action
    runDemos demos

def opensStream : Call → Bool
  | .openOutput _ => true
  | _ => false

/-- Only the opening of a stream can leave a file. -/
theorem clean_other {request : Call} (other : opensStream request = false) :
    Clean unopened (ask request) := by
  apply clean_ask
  intro answer
  cases request with
  | openOutput path => cases other
  | _ => rfl

theorem clean_then {α : Type} {request : Call} (other : opensStream request = false)
    {next : Action α} (rest : Clean unopened next) :
    Clean unopened (ask request >>= fun _ => next) :=
  Clean.bind (clean_other other) fun _ => rest

/-- A call whose answer is read before the program goes on with it. -/
theorem clean_answer {α β : Type} {request : Call} (other : opensStream request = false)
    (read : Answer request → α) {next : α → Action β} (rest : ∀ value, Clean unopened (next value)) :
    Clean unopened ((do return read (← ask request) : Action α) >>= next) :=
  Clean.bind (Clean.bind (clean_other other) fun _ => trivial) rest

theorem writeChunks_clean (file : Nat) (sizeBytes : UInt64) (rounds : Nat) (i : UInt64) :
    Clean unopened (writeChunks file sizeBytes rounds i) := by
  induction rounds generalizing i with
  | zero => trivial
  | succ rounds ih =>
    unfold writeChunks
    split
    next => exact clean_then rfl (ih (i + bufferSize))
    next => trivial

theorem fillTempFile_clean (file : Nat) (tempFileName : String) (sizeBytes : UInt64) :
    Clean unopened (fillTempFile file tempFileName sizeBytes) :=
  Clean.bind (writeChunks_clean _ _ _ _) fun _ => clean_then rfl trivial

theorem mapTempFile_clean (mapping : FileMapping) (sizeMB : UInt64) (tempFileName : String) :
    Clean unopened (mapTempFile mapping sizeMB tempFileName) := by
  unfold mapTempFile
  split
  next => trivial
  next =>
    apply clean_answer rfl
    intro hFile
    split
    next => exact clean_then rfl trivial
    next =>
      apply clean_answer rfl
      intro hMapFile
      split
      next => exact clean_then rfl (clean_then rfl trivial)
      next =>
        apply clean_answer rfl
        intro pBuf
        split
        next => exact clean_then rfl (clean_then rfl (clean_then rfl trivial))
        next =>
          exact clean_then rfl (clean_then rfl (clean_then rfl (clean_then rfl (clean_other rfl))))

theorem demoAnonymousPrivate_clean (sizeMB : UInt64) :
    Clean unopened (demoAnonymousPrivate sizeMB) := by
  apply clean_answer rfl
  intro privateMem
  split
  next => trivial
  next => exact clean_then rfl (clean_other rfl)

theorem demoAnonymousShared_clean (sizeMB : UInt64) :
    Clean unopened (demoAnonymousShared sizeMB) := by
  apply clean_answer rfl
  intro hMapFile
  split
  next => trivial
  next =>
    apply clean_answer rfl
    intro pBuf
    split
    next => exact clean_then rfl trivial
    next => exact clean_then rfl (clean_then rfl (clean_other rfl))

theorem demoFileMapped_leaves (mapping : FileMapping) (sizeMB : UInt64) :
    Leaves effect unopened (demoFileMapped mapping sizeMB) := by
  intro environment past held value returned
  rw [demoFileMapped_eq] at returned ⊢
  rw [run_ask environment past _ _ rfl, run_ask environment _ _ _ rfl] at returned ⊢
  generalize environment past .getTempPath = tempPath at returned ⊢
  generalize environment (past ++ _) (.getTempFileName tempPath "mem") = tempFileName at returned ⊢
  generalize opened : environment _ (.openOutput tempFileName.path) = answer at returned
  rw [run_ask environment _ _ _ opened] at returned ⊢
  cases answer with
  | none =>
    -- nothing deletes the file that came with the name
    change some (Resource.tempFile tempFileName.path ::ₘ held) =
      some (([Resource.tempFile tempFileName.path] : Multiset Resource) + held)
    rw [← Multiset.singleton_add]
    rfl
  | some file =>
    have keeps : Keeps (afterOpening mapping sizeMB tempFileName (some file))
        (.stream file ::ₘ .tempFile tempFileName.path ::ₘ held) fun _ after => after = held := by
      unfold afterOpening
      rw [keeps_bind]
      apply fillTempFile_keeps
      exact mapTempFile_keeps mapping sizeMB tempFileName.named held
    have clean : Clean unopened (afterOpening mapping sizeMB tempFileName (some file)) :=
      Clean.bind (fillTempFile_clean _ _ _) (mapTempFile_clean mapping sizeMB)
    exact replay_of_clean clean keeps returned

theorem demo_leavesUnopened (demo : Demo) : Leaves effect unopened demo.action := by
  cases demo with
  | anonymousPrivate sizeMB =>
    exact leaves_of_clean (demoAnonymousPrivate_clean sizeMB) (demoAnonymousPrivate_keeps sizeMB)
  | anonymousShared sizeMB =>
    exact leaves_of_clean (demoAnonymousShared_clean sizeMB) (demoAnonymousShared_keeps sizeMB)
  | fileMappedPrivate sizeMB => exact demoFileMapped_leaves _ sizeMB
  | fileMappedShared sizeMB => exact demoFileMapped_leaves _ sizeMB

theorem runDemos_leave (demos : List Demo) : Leaves effect unopened (runDemos demos) := by
  induction demos with
  | nil => exact leaves_of_clean trivial fun held => rfl
  | cons demo demos ih => exact (demo_leavesUnopened demo).bind fun _ => ih

theorem runDemos_returns (demos : List Demo) : Returns (runDemos demos) := by
  induction demos with
  | nil => trivial
  | cons demo demos ih => exact (demo_returns demo).bind fun _ => ih

/-- Whatever demos a program calls in whatever order, and however their calls go: it returns,
and behind it lie the files whose streams did not open, each as often as it happened, and
nothing else. -/
theorem demos_leaveFiles (demos : List Demo) (environment : Environment Call Answer) :
    (run environment [] (runDemos demos)).result = some () ∧
      replay 0 ((run environment [] (runDemos demos)).log.flatMap effect) =
        some ((run environment [] (runDemos demos)).log.filterMap unopened : Multiset Resource) ∧
      (Accounted ((run environment [] (runDemos demos)).log.flatMap effect) ↔
        (run environment [] (runDemos demos)).log.filterMap unopened = []) := by
  obtain ⟨⟨⟩, returned⟩ := (runDemos_returns demos).run environment []
  have leaves := runDemos_leave demos
  have replayed := leaves environment [] 0 () returned
  rw [add_zero] at replayed
  exact ⟨returned, replayed, leaves.accounted_iff returned⟩

end MemoryDemo.Windows.DemoSequences
