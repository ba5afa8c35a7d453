import MemoryDemo.Darwin.SharedPages
import MemoryDemo.Library.JoinedOutput

/-! What the demos that fork print of their shared memory, in `macos/process/xnu_footprint_demo.cpp`
and in `macos/process/activity_monitor_demo.mm`: the byte that the child finds, the byte that it
has written, and the byte that the parent finds behind its child. -/

namespace MemoryDemo.Darwin.ForkReadings
open Library.ForkJoin Library.JoinedOutput Library.Stride Library.Transition
open FootprintDemos (sizeBytes sizeOptions)
open MappedStores (sizeBytes_strides)
open SharedPages (Instruction Sharing Input Store machine regionView writePages pageOffsets
  after_writePages regionView_silent)

/-- Here the parent waits for its child without a word of the user. -/
def demoAnonymousSharedMemory (offsets : List UInt64) : Sharing where
  setUp := writePages 'A' offsets
  child := .read 0 :: (writePages 'B' offsets ++ [.read 0, .waitForUser, .exit 0])
  parent := [.waitpid, .check, .waitForUser, .unmap]

def demoSharedMemory (offsets : List UInt64) : Sharing where
  setUp := writePages 'S' offsets
  child := .read 0 :: (writePages 'C' offsets ++ [.read 0, .waitForUser, .exit 0])
  parent := [.waitpid, .check, .waitForUser, .unmap, .call "close", .call "shm_unlink"]

/-- The child detaches the segment from itself. -/
def demoSysvSharedMemory (offsets : List UInt64) : Sharing where
  setUp := writePages 'V' offsets
  child := .read 0 ::
    (writePages 'C' offsets ++ [.read 0, .waitForUser, .call "shmdt", .exit 0])
  parent := [.waitpid, .check, .waitForUser, .unmap, .call "shmctl"]

/-- A demo that forks, with the size of its region; the System V search takes one of a few. -/
inductive Demo where
  | activity (demo : SharedPages.Demo) (sizeMb : UInt64)
  | anonymousSharedMemory (sizeMb : UInt64)
  | sharedMemory (sizeMb : UInt64)
  | sysvSharedMemory (currentSize : {size : UInt64 // size ∈ sizeOptions})

def Demo.size : Demo → UInt64
  | .activity _ sizeMb | .anonymousSharedMemory sizeMb | .sharedMemory sizeMb => sizeBytes sizeMb
  | .sysvSharedMemory currentSize => currentSize

def Demo.sharing : Demo → List UInt64 → Sharing
  | .activity demo _ => demo.sharing
  | .anonymousSharedMemory _ => demoAnonymousSharedMemory
  | .sharedMemory _ => demoSharedMemory
  | .sysvSharedMemory _ => demoSysvSharedMemory

/-- The byte that the child finds; the file of the third demo is as it was mapped. -/
def Demo.firstByte (bytes : UInt64 → Char) : Demo → Char
  | .activity .sharedMemory _ => 'S'
  | .activity .anonSharedMemoryRprvt _ => 'R'
  | .activity .sharedFileMapping _ => bytes 0
  | .anonymousSharedMemory _ => 'A'
  | .sharedMemory _ => 'S'
  | .sysvSharedMemory _ => 'V'

/-- The byte that the child writes. -/
def Demo.childByte : Demo → Char
  | .activity demo _ => demo.childByte
  | .anonymousSharedMemory _ => 'B'
  | .sharedMemory _ | .sysvSharedMemory _ => 'C'

def Demo.forked (demo : Demo) (bytes : UInt64 → Char) (input : Input) :
    Option (Processes Store Instruction) :=
  (pageOffsets demo.size).map fun offsets => (demo.sharing offsets).forked bytes input

/-- What the instructions print of the region. -/
def readings : Reader machine (UInt64 → Char) Char where
  toView := regionView
  output
    | .read offset, bytes => some (bytes offset)
    | .check, bytes => some (bytes 0)
    | _, _ => none

/-- Whether an instruction writes to the region or reads it. -/
def touches : Instruction → Bool
  | .write _ _ | .read _ | .check => true
  | _ => false

theorem quiet_of_touches {instruction : Instruction} (other : touches instruction = false) :
    readings.Quiet instruction := by
  cases instruction with
  | write | read | check => cases other
  | _ => exact ⟨fun _ => rfl, fun _ => rfl⟩

theorem outputs_append_quiet {before : List Instruction}
    (quiet : ∀ instruction ∈ before, touches instruction = false) (rest : List Instruction)
    (bytes : UInt64 → Char) :
    readings.outputs (before ++ rest) bytes = readings.outputs rest bytes := by
  induction before with
  | nil => rfl
  | cons instruction others ih =>
    rw [List.cons_append,
      readings.outputs_quiet (quiet_of_touches (quiet _ List.mem_cons_self))]
    exact ih fun other member => quiet other (List.mem_cons_of_mem _ member)

theorem outputs_of_quiet {instructions : List Instruction}
    (quiet : ∀ instruction ∈ instructions, touches instruction = false) (bytes : UInt64 → Char) :
    readings.outputs instructions bytes = [] := by
  have same := outputs_append_quiet quiet [] bytes
  rwa [List.append_nil] at same

theorem outputs_writePages (byte : Char) (offsets : List UInt64) (rest : List Instruction)
    (bytes : UInt64 → Char) :
    readings.outputs (writePages byte offsets ++ rest) bytes =
      readings.outputs rest (regionView.after (writePages byte offsets) bytes) := by
  induction offsets generalizing bytes with
  | nil => rfl
  | cons first others ih => exact ih (Function.update bytes first byte)

/-- What all the demos have in common. -/
structure Common (sharing : Sharing) (byte : Char) (offsets : List UInt64) : Prop where
  child : ∃ ending, sharing.child = .read 0 :: (writePages byte offsets ++ .read 0 :: ending) ∧
    ∀ instruction ∈ ending, touches instruction = false
  parent : ∃ before between cleanup,
    sharing.parent = before ++ .waitpid :: (between ++ .check :: cleanup) ∧
      (∀ instruction ∈ before, touches instruction = false) ∧
      (∀ instruction ∈ between, touches instruction = false) ∧
      ∀ instruction ∈ cleanup, touches instruction = false

theorem Demo.common (demo : Demo) (offsets : List UInt64) :
    Common (demo.sharing offsets) demo.childByte offsets := by
  cases demo with
  | activity demo sizeMb =>
    cases demo with
    | _ => exact ⟨⟨_, rfl, by decide⟩, [.waitForUser], [], _, rfl, by decide, by decide, by decide⟩
  | _ => exact ⟨⟨_, rfl, by decide⟩, [], [], _, rfl, by decide, by decide, by decide⟩

/-- The loop of the setup, or the file as it was, seen at the first byte. -/
theorem Demo.setUp_first (demo : Demo) {offsets : List UInt64} (member : (0 : UInt64) ∈ offsets)
    (bytes : UInt64 → Char) :
    regionView.after (demo.sharing offsets).setUp bytes 0 = demo.firstByte bytes := by
  have stamped (byte : Char) : regionView.after (writePages byte offsets) bytes 0 = byte :=
    (after_writePages byte offsets bytes 0).trans (if_pos member)
  cases demo with
  | activity demo sizeMb =>
    cases demo with
    | sharedMemory => exact stamped 'S'
    | anonSharedMemoryRprvt =>
      change regionView.after (writePages 'R' offsets ++ [.waitForUser]) bytes 0 = 'R'
      rw [View.after_append]
      exact stamped 'R'
    | sharedFileMapping =>
      change regionView.after (offsets.map .read ++ [.waitForUser]) bytes 0 = bytes 0
      rw [View.after_silent]
      intro instruction among
      apply regionView_silent
      rcases List.mem_append.mp among with reads | waits
      · obtain ⟨offset, -, rfl⟩ := List.mem_map.mp reads
        rfl
      · rw [List.mem_singleton.mp waits]
        rfl
  | anonymousSharedMemory => exact stamped 'A'
  | sharedMemory => exact stamped 'S'
  | sysvSharedMemory => exact stamped 'V'

section
variable {sharing : Sharing} {byte : Char} {offsets : List UInt64}

theorem Common.after_child (common : Common sharing byte offsets) (bytes : UInt64 → Char)
    (offset : UInt64) :
    regionView.after sharing.child bytes offset =
      if offset ∈ offsets then byte else bytes offset := by
  obtain ⟨ending, program, quiet⟩ := common.child
  rw [program]
  apply SharedPages.after_readThenWrite
  intro instruction among
  rcases List.mem_cons.mp among with rfl | later
  · rfl
  · have other := quiet instruction later
    cases instruction with
    | write => cases other
    | _ => rfl

/-- What the child prints that runs by itself. -/
theorem Common.outputs_child (common : Common sharing byte offsets)
    (member : (0 : UInt64) ∈ offsets) (bytes : UInt64 → Char) :
    readings.outputs sharing.child bytes = [bytes 0, byte] := by
  obtain ⟨ending, program, quiet⟩ := common.child
  have written : regionView.after (writePages byte offsets) bytes 0 = byte :=
    (after_writePages byte offsets bytes 0).trans (if_pos member)
  rw [program]
  change bytes 0 :: readings.outputs (writePages byte offsets ++ .read 0 :: ending) bytes = _
  rw [outputs_writePages]
  change bytes 0 :: regionView.after (writePages byte offsets) bytes 0 ::
    readings.outputs ending _ = _
  rw [written, outputs_of_quiet quiet]

theorem Common.outputs_parent (common : Common sharing byte offsets) (bytes : UInt64 → Char) :
    readings.outputs sharing.parent bytes = [bytes 0] := by
  obtain ⟨before, between, cleanup, program, first, second, third⟩ := common.parent
  rw [program, outputs_append_quiet first]
  change readings.outputs (between ++ .check :: cleanup) bytes = _
  rw [outputs_append_quiet second]
  change bytes 0 :: readings.outputs cleanup bytes = _
  rw [outputs_of_quiet third]

theorem Common.ordered (common : Common sharing byte offsets) (store : Store) :
    readings.Ordered ⟨store, sharing.parent, sharing.child⟩ := by
  obtain ⟨before, between, cleanup, program, first, -, -⟩ := common.parent
  exact Or.inr ⟨before, .waitpid, between ++ .check :: cleanup, program, by decide,
    fun instruction member => quiet_of_touches (first instruction member)⟩

theorem silent_of_touches {instruction : Instruction} (other : touches instruction = false) :
    regionView.Silent instruction :=
  (quiet_of_touches other).silent

/-- The whole parent leaves the region to its child. -/
theorem Common.parent_silent (common : Common sharing byte offsets) :
    ∀ instruction ∈ sharing.parent, regionView.Silent instruction := by
  obtain ⟨before, between, cleanup, program, first, second, third⟩ := common.parent
  rw [program]
  intro instruction member
  simp only [List.mem_append, List.mem_cons] at member
  rcases member with early | rfl | among | rfl | late
  · exact silent_of_touches (first _ early)
  · exact silent_of_touches rfl
  · exact silent_of_touches (second _ among)
  · exact fun _ => rfl
  · exact silent_of_touches (third _ late)

theorem Common.waits (common : Common sharing byte offsets) :
    ∃ instruction ∈ sharing.parent, machine.waits instruction = true := by
  obtain ⟨before, between, cleanup, program, -⟩ := common.parent
  rw [program]
  exact ⟨.waitpid, List.mem_append_right _ List.mem_cons_self, by decide⟩

/-- Where the parent looks, its child has ended and has left the region as by itself. -/
theorem Common.seen_at_check (common : Common sharing byte offsets)
    {start last : Processes Store Instruction} {moves : List (Move Input)}
    {taken : List (Processes Store Instruction × Move Input)}
    (ran : run (step machine) start moves = some (taken, last))
    (program : start.parent = sharing.parent) {rest : List Instruction}
    (reached : last.parent = .check :: rest) :
    last.store.bytes = regionView.after start.child start.store.bytes := by
  obtain ⟨before, between, cleanup, whole, first, second, third⟩ := common.parent
  have split : start.parent = (before ++ .waitpid :: between) ++ .check :: cleanup := by
    rw [program, whole, List.append_assoc]
    rfl
  have absent {instructions : List Instruction}
      (quiet : ∀ instruction ∈ instructions, touches instruction = false) :
      .check ∉ instructions := fun member => nomatch quiet .check member
  have earlier : ∀ instruction ∈ before ++ .waitpid :: between, touches instruction = false := by
    rw [List.forall_mem_append, List.forall_mem_cons]
    exact ⟨first, rfl, second⟩
  exact (seen_at regionView ran split (absent earlier) (absent third) reached
    ⟨.waitpid, List.mem_append_right _ List.mem_cons_self, by decide⟩
    fun other member => silent_of_touches (earlier other member)).2

end

/-- Nobody blocks for ever but on a user who does nothing. -/
theorem moves_or_asks (now : Processes Store Instruction) (running : now.parent ≠ []) :
    (∃ next, step machine now .child = some next) ∨ (∃ next, step machine now .parent = some next) ∨
      (now.store.closed = false ∧ now.store.lines = 0) := by
  obtain ⟨store, parents, children⟩ := now
  have able (instruction : Instruction) : machine.ready instruction store = true ∨
      (store.closed = false ∧ store.lines = 0) := by
    cases instruction with
    | waitForUser =>
      change (store.closed || decide (0 < store.lines)) = true ∨ _
      cases store.closed with
      | true => exact Or.inl rfl
      | false =>
        rcases Nat.eq_zero_or_pos store.lines with none | some
        · exact Or.inr ⟨rfl, none⟩
        · exact Or.inl (decide_eq_true some)
    | _ => exact Or.inl rfl
  cases children with
  | cons instruction rest =>
    rcases able instruction with ready | asks
    · exact Or.inl ⟨_, step_child parents rest ready⟩
    · exact Or.inr (Or.inr asks)
  | nil =>
    cases parents with
    | nil => exact absurd rfl running
    | cons instruction rest =>
      rcases able instruction with ready | asks
      · exact Or.inr (Or.inl ⟨_, step_parent rest ready⟩)
      · exact Or.inr (Or.inr asks)

/-- The three readings, in the order in which they are printed. -/
def Demo.printed (demo : Demo) (bytes : UInt64 → Char) : List (Process × Char) :=
  [(.child, demo.firstByte bytes), (.child, demo.childByte), (.parent, demo.childByte)]

/-- What a run of the two processes shows: its readings are the first of the three, and all of
them once the parent has ended; where the parent looks, the child has written to every page; and
the run goes on unless it is the user's turn. -/
structure Shows (demo : Demo) (bytes : UInt64 → Char)
    (taken : List (Processes Store Instruction × Move Input)) (last : Processes Store Instruction) :
    Prop where
  prints : readings.emitted taken <+: demo.printed bytes
  all : last.parent = [] → last.child = [] ∧ readings.emitted taken = demo.printed bytes
  pages : ∀ rest, last.parent = .check :: rest → ∀ pageSize, 4096 ∣ pageSize →
    ∀ offset < demo.size, pageSize ∣ offset.toNat → last.store.bytes offset = demo.childByte
  goes : last.parent ≠ [] → (∃ next, step machine last .child = some next) ∨
    (∃ next, step machine last .parent = some next) ∨
      (last.store.closed = false ∧ last.store.lines = 0)

theorem Demo.size_strides (demo : Demo) :
    demo.size.toNat + (4096 : UInt64).toNat ≤ 2 ^ 64 := by
  cases demo with
  | sysvSharedMemory currentSize =>
    have bounded : ∀ size ∈ sizeOptions, size.toNat ≤ 64 * 1024 := by simp [sizeOptions]
    have small := bounded currentSize.1 currentSize.2
    have stride : (4096 : UInt64).toNat = 4096 := rfl
    rw [stride, size]
    omega
  | activity _ sizeMb | anonymousSharedMemory sizeMb | sharedMemory sizeMb =>
    exact (sizeBytes_strides sizeMb).1

/-- For every size that can be mapped, every order of the steps and whatever the user does. -/
theorem demo_readings (demo : Demo) (mapped : demo.size ≠ 0) (bytes : UInt64 → Char)
    (input : Input) :
    ∃ start, demo.forked bytes input = some start ∧
      ∀ moves taken last, run (step machine) start moves = some (taken, last) →
        Shows demo bytes taken last := by
  obtain ⟨offsets, listed, member⟩ := indices_of_bounded (by decide) demo.size_strides
    (Nat.lt_succ_self _)
  have first : (0 : UInt64) ∈ offsets := (member 0).mpr ⟨UInt64.pos_iff_ne_zero.mpr mapped, by simp⟩
  have common := demo.common offsets
  refine ⟨(demo.sharing offsets).forked bytes input, ?_, fun moves taken last ran => ?_⟩
  · rw [Demo.forked, pageOffsets]
    exact congrArg _ listed
  set start := (demo.sharing offsets).forked bytes input with forked
  have begun : start.store.bytes = regionView.after (demo.sharing offsets).setUp bytes :=
    regionView.view_foldl _ _
  have found : start.store.bytes 0 = demo.firstByte bytes := by
    rw [begun, demo.setUp_first first]
  have written (offset : UInt64) : regionView.after start.child start.store.bytes offset =
      if offset ∈ offsets then demo.childByte else start.store.bytes offset :=
    common.after_child _ offset
  have predicted : readings.left start = demo.printed bytes := by
    change (readings.outputs (demo.sharing offsets).child start.store.bytes).map _ ++
      (readings.outputs (demo.sharing offsets).parent
        (regionView.after start.child start.store.bytes)).map _ = _
    rw [common.outputs_child first, common.outputs_parent, written, if_pos first, found]
    rfl
  have whole : readings.emitted taken ++ readings.left last = demo.printed bytes :=
    (readings.run_left ran (common.ordered _)).trans predicted
  exact
    { prints := ⟨_, whole⟩
      all := by
        intro ended
        have reached : start.parent = start.parent ++ last.parent := by
          rw [ended, List.append_nil]
        have joined := (seen_of_joined regionView ran reached common.waits common.parent_silent).1
        refine ⟨joined, ?_⟩
        have finished : readings.left last = [] := by
          rw [Reader.left, joined, ended]
          rfl
        rwa [finished, List.append_nil] at whole
      pages := by
        intro rest reached pageSize grid offset below multiple
        rw [common.seen_at_check ran rfl reached, written, if_pos]
        exact (member offset).mpr ⟨below, Nat.dvd_trans grid multiple⟩
      goes := moves_or_asks last }

/-- The System V demo with a segment of 64 KB. -/
theorem demo_readings_sysv :
    ∃ start, (Demo.sysvSharedMemory ⟨64 * 1024, by decide⟩).forked (fun _ => '?') ⟨1, false⟩ =
        some start ∧
      ∀ moves taken last, run (step machine) start moves = some (taken, last) →
        Shows (.sysvSharedMemory ⟨64 * 1024, by decide⟩) (fun _ => '?') taken last :=
  demo_readings (.sysvSharedMemory ⟨64 * 1024, by decide⟩) (by decide) (fun _ => '?') ⟨1, false⟩

end MemoryDemo.Darwin.ForkReadings
