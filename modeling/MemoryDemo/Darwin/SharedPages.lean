import Mathlib.Logic.Function.Basic
import MemoryDemo.Darwin.MappedStores
import MemoryDemo.Library.ForkJoin

/-! Shared memory of a parent and its child, byte by byte: the instructions of the two behind
the `fork`, and the demos of `macos/process/activity_monitor_demo.mm` that fork. Both
processes see one memory and read one standard input; `waitpid` returns once the child has
ended. Prints and metrics are left out. -/

namespace MemoryDemo.Darwin.SharedPages
open Library.ForkJoin Library.Stride Library.Transition
open FootprintDemos (sizeBytes)
open MappedStores (sizeBytes_strides)

/-- Offsets count from the start of the shared region. `check` is the read of the first byte
by which the parent looks for what its child has written. -/
inductive Instruction where
  | write (offset : UInt64) (byte : Char)
  | read (offset : UInt64)
  | check
  | waitForUser
  | waitpid
  | unmap
  | call (name : String)
  | exit (status : Int)
  deriving DecidableEq, Repr

/-- The shared region, whether the parent maps it, and the standard input. -/
structure Store where
  bytes : UInt64 → Char
  mapped : Bool
  lines : Nat
  closed : Bool

/-- What the user does: so many lines are there to read, or the input has ended. -/
structure Input where
  lines : Nat
  closed : Bool
  deriving DecidableEq, Repr

def act : Instruction → Store → Store
  | .write offset byte, store => { store with bytes := Function.update store.bytes offset byte }
  | .waitForUser, store => { store with lines := store.lines - 1 }
  | .unmap, store => { store with mapped := false }
  | .read _, store | .check, store | .waitpid, store | .call _, store | .exit _, store => store

/-- `cin.get()` blocks as long as there is nothing to read and the input has not ended. -/
def ready : Instruction → Store → Bool
  | .waitForUser, store => store.closed || decide (0 < store.lines)
  | _, _ => true

def machine : Machine Store Instruction Input where
  waits instruction := decide (instruction = .waitpid)
  ready := ready
  act := act
  outside input store := { store with lines := input.lines, closed := input.closed }

/-- What both processes see of the region. -/
def regionView : View machine (UInt64 → Char) where
  view := Store.bytes
  effect
    | .write offset byte, bytes => Function.update bytes offset byte
    | _, bytes => bytes
  acts instruction store := by cases instruction <;> rfl
  outside input store := rfl

/-- Whether the parent maps the region. -/
def mappedView : View machine Bool where
  view := Store.mapped
  effect
    | .unmap, _ => false
    | _, mapped => mapped
  acts instruction store := by cases instruction <;> rfl
  outside input store := rfl

/-- The loop that writes a byte at each offset. -/
def writePages (byte : Char) (offsets : List UInt64) : List Instruction :=
  offsets.map (.write · byte)

theorem after_writePages (byte : Char) (offsets : List UInt64) (bytes : UInt64 → Char)
    (offset : UInt64) :
    regionView.after (writePages byte offsets) bytes offset =
      if offset ∈ offsets then byte else bytes offset := by
  induction offsets generalizing bytes with
  | nil => rfl
  | cons first rest ih =>
    change regionView.after (writePages byte rest) (Function.update bytes first byte) offset = _
    rw [ih, Function.update_apply]
    by_cases later : offset ∈ rest
    · rw [if_pos later, if_pos (List.mem_cons_of_mem _ later)]
    · rw [if_neg later]
      simp only [List.mem_cons, later, or_false]

def Instruction.isWrite : Instruction → Bool
  | .write _ _ => true
  | _ => false

theorem regionView_silent {instruction : Instruction} (other : instruction.isWrite = false) :
    regionView.Silent instruction := by
  intro bytes
  cases instruction with
  | write offset byte => cases other
  | _ => rfl

theorem mappedView_silent {instruction : Instruction} (other : instruction ≠ .unmap) :
    mappedView.Silent instruction := by
  intro mapped
  cases instruction with
  | unmap => exact absurd rfl other
  | _ => rfl

/-- Only the loop of a child that reads, writes and ends matters to the region. -/
theorem after_readThenWrite (byte : Char) (offsets : List UInt64) (ending : List Instruction)
    (silent : ∀ instruction ∈ ending, instruction.isWrite = false) (bytes : UInt64 → Char)
    (offset : UInt64) :
    regionView.after (.read 0 :: (writePages byte offsets ++ ending)) bytes offset =
      if offset ∈ offsets then byte else bytes offset := by
  have rest : ∀ instruction ∈ ending, regionView.Silent instruction :=
    fun instruction member => regionView_silent (silent instruction member)
  change regionView.after (writePages byte offsets ++ ending) bytes offset = _
  rw [View.after_append, View.after_silent _ rest, after_writePages]

/-- What a demo does before the `fork`, and what each process does behind it. -/
structure Sharing where
  setUp : List Instruction
  child : List Instruction
  parent : List Instruction

def demoSharedMemory (offsets : List UInt64) : Sharing where
  setUp := writePages 'S' offsets
  child := .read 0 :: (writePages 'C' offsets ++ [.read 0, .waitForUser, .exit 0])
  parent := [.waitForUser, .waitpid, .check, .waitForUser, .unmap]

def demoAnonSharedMemoryRprvt (offsets : List UInt64) : Sharing where
  setUp := writePages 'R' offsets ++ [.waitForUser]
  child := .read 0 :: (writePages 'S' offsets ++ [.read 0, .waitForUser, .exit 0])
  parent := [.waitForUser, .waitpid, .check, .waitForUser, .unmap]

/-- The setup fills the file before it maps it, which is part of the first store. -/
def demoSharedFileMapping (offsets : List UInt64) : Sharing where
  setUp := offsets.map .read ++ [.waitForUser]
  child := .read 0 ::
    (writePages 'C' offsets ++ [.read 0, .waitForUser, .call "msync", .exit 0])
  parent := [.waitForUser, .waitpid, .check, .waitForUser, .unmap, .call "close", .call "unlink"]

inductive Demo where
  | sharedMemory
  | anonSharedMemoryRprvt
  | sharedFileMapping
  deriving DecidableEq, Repr

def Demo.sharing : Demo → List UInt64 → Sharing
  | .sharedMemory => demoSharedMemory
  | .anonSharedMemoryRprvt => demoAnonSharedMemoryRprvt
  | .sharedFileMapping => demoSharedFileMapping

/-- The byte that the child writes. -/
def Demo.childByte : Demo → Char
  | .sharedMemory => 'C'
  | .anonSharedMemoryRprvt => 'S'
  | .sharedFileMapping => 'C'

/-- The two processes right behind the `fork`, for a region that is mapped. -/
def Sharing.forked (sharing : Sharing) (bytes : UInt64 → Char) (input : Input) :
    Processes Store Instruction :=
  ⟨sharing.setUp.foldl (fun store instruction => act instruction store)
      ⟨bytes, true, input.lines, input.closed⟩,
    sharing.parent, sharing.child⟩

/-- The offsets that the loops of a demo go over. -/
def pageOffsets (bytes : UInt64) : Option (List UInt64) :=
  indices bytes 4096 (bytes.toNat / 4096 + 2)

def Demo.forked (demo : Demo) (sizeMb : UInt64) (bytes : UInt64 → Char) (input : Input) :
    Option (Processes Store Instruction) :=
  (pageOffsets (sizeBytes sizeMb)).map fun offsets => (demo.sharing offsets).forked bytes input

theorem pageOffsets_spec (sizeMb : UInt64) :
    ∃ offsets, pageOffsets (sizeBytes sizeMb) = some offsets ∧
      ∀ offset, offset ∈ offsets ↔ offset < sizeBytes sizeMb ∧ 4096 ∣ offset.toNat :=
  indices_of_bounded (by decide) (sizeBytes_strides sizeMb).1 (Nat.lt_succ_self _)

theorem Demo.after_child (demo : Demo) (offsets : List UInt64) (bytes : UInt64 → Char)
    (offset : UInt64) :
    regionView.after (demo.sharing offsets).child bytes offset =
      if offset ∈ offsets then demo.childByte else bytes offset := by
  cases demo with
  | sharedMemory => exact after_readThenWrite 'C' offsets _ (by decide) bytes offset
  | anonSharedMemoryRprvt => exact after_readThenWrite 'S' offsets _ (by decide) bytes offset
  | sharedFileMapping => exact after_readThenWrite 'C' offsets _ (by decide) bytes offset

theorem Demo.parent_eq (demo : Demo) (offsets : List UInt64) :
    ∃ cleanup, (demo.sharing offsets).parent =
        [.waitForUser, .waitpid] ++ .check :: cleanup ∧ .check ∉ cleanup ∧ .unmap ∈ cleanup := by
  cases demo with
  | sharedMemory => exact ⟨_, rfl, by decide, by decide⟩
  | anonSharedMemoryRprvt => exact ⟨_, rfl, by decide, by decide⟩
  | sharedFileMapping => exact ⟨_, rfl, by decide, by decide⟩

theorem writePages_maps (byte : Char) (offsets : List UInt64) :
    ∀ instruction ∈ writePages byte offsets, instruction ≠ .unmap := by
  intro instruction member
  obtain ⟨offset, -, rfl⟩ := List.mem_map.mp member
  exact nofun

theorem readThenWrite_maps (byte : Char) (offsets : List UInt64) (ending : List Instruction)
    (maps : ∀ instruction ∈ ending, instruction ≠ .unmap) :
    ∀ instruction ∈ .read 0 :: (writePages byte offsets ++ ending), instruction ≠ .unmap := by
  rw [List.forall_mem_cons, List.forall_mem_append]
  exact ⟨nofun, writePages_maps byte offsets, maps⟩

theorem Demo.child_maps (demo : Demo) (offsets : List UInt64) :
    ∀ instruction ∈ (demo.sharing offsets).child, instruction ≠ .unmap := by
  cases demo with
  | sharedMemory => exact readThenWrite_maps 'C' offsets _ (by decide)
  | anonSharedMemoryRprvt => exact readThenWrite_maps 'S' offsets _ (by decide)
  | sharedFileMapping => exact readThenWrite_maps 'C' offsets _ (by decide)

theorem Demo.setUp_maps (demo : Demo) (offsets : List UInt64) :
    ∀ instruction ∈ (demo.sharing offsets).setUp, instruction ≠ .unmap := by
  cases demo with
  | sharedMemory => exact writePages_maps 'S' offsets
  | anonSharedMemoryRprvt =>
    exact List.forall_mem_append.mpr ⟨writePages_maps 'R' offsets, by decide⟩
  | sharedFileMapping =>
    refine List.forall_mem_append.mpr ⟨fun instruction member => ?_, by decide⟩
    obtain ⟨offset, -, rfl⟩ := List.mem_map.mp member
    exact nofun

theorem Sharing.forked_mapped {sharing : Sharing}
    (maps : ∀ instruction ∈ sharing.setUp, instruction ≠ .unmap) (bytes : UInt64 → Char)
    (input : Input) : (sharing.forked bytes input).store.mapped = true := by
  have seen := mappedView.view_foldl sharing.setUp ⟨bytes, true, input.lines, input.closed⟩
  rw [View.after_silent _ fun instruction member => mappedView_silent (maps instruction member)]
    at seen
  exact seen

/-- As long as the child runs the parent has not passed its wait, and so it has unmapped
nothing. -/
theorem unmapped_after_child {start last : Processes Store Instruction}
    {moves : List (Move Input)} {taken : List (Processes Store Instruction × Move Input)}
    (ran : run (step machine) start moves = some (taken, last)) {cleanup : List Instruction}
    (program : start.parent = .waitForUser :: .waitpid :: cleanup)
    (maps : ∀ instruction ∈ start.child, instruction ≠ .unmap) (mapped : start.store.mapped = true)
    (unmapped : last.store.mapped = false) : last.child = [] := by
  obtain ⟨parentDone, childDone, follows⟩ := run_follows mappedView ran
  by_contra running
  have early : parentDone <+: [.waitForUser] :=
    follows.prefix_of_running running program rfl
  have silent : ∀ instruction ∈ parentDone, mappedView.Silent instruction := by
    intro instruction member
    rw [List.mem_singleton.mp (early.subset member)]
    exact mappedView_silent nofun
  have child_silent : ∀ instruction ∈ childDone, mappedView.Silent instruction := by
    intro instruction member
    apply mappedView_silent
    apply maps
    rw [follows.child]
    exact List.mem_append_left _ member
  have still := follows.seen silent
  rw [View.after_silent _ child_silent] at still
  change last.store.mapped = start.store.mapped at still
  rw [unmapped, mapped] at still
  cases still

/-- Once the input has ended nothing blocks but the wait. -/
theorem closed_able (instruction : Instruction) (store : Store) (closed : store.closed = true) :
    machine.ready instruction store = true ∧ (machine.act instruction store).closed = true := by
  cases instruction with
  | waitForUser =>
    refine ⟨?_, closed⟩
    change (store.closed || decide (0 < store.lines)) = true
    rw [closed, Bool.true_or]
  | _ => exact ⟨rfl, closed⟩

/-- A user who ends the input and a child that runs first let the parent get past its waits. -/
theorem run_to_check (store : Store) (child before after : List Instruction) :
    ∃ moves taken last, run (step machine) ⟨store, before ++ after, child⟩ moves =
      some (taken, last) ∧ last.parent = after := by
  obtain ⟨taken, middle, child_ran, still⟩ := run_child (fun store => store.closed = true)
    { store with lines := 0, closed := true } rfl (before ++ after) child
    (fun instruction _ => closed_able instruction)
  obtain ⟨later, last, parent_ran, _⟩ := run_parent (fun store => store.closed = true)
    middle still before after (fun instruction _ => closed_able instruction)
  have ended : run (step machine) ⟨store, before ++ after, child⟩ [.outside ⟨0, true⟩] =
      some (_, ⟨{ store with lines := 0, closed := true }, before ++ after, child⟩) := rfl
  exact ⟨_, _, _, run_append _ ended (run_append _ child_ran parent_ran), rfl⟩

/-- The region is unmapped or still to be unmapped by the parent. -/
def Unmaps (now : Processes Store Instruction) : Prop :=
  now.store.mapped = false ∨ .unmap ∈ now.parent

theorem step_unmaps {now next : Processes Store Instruction} {move : Move Input}
    (stepped : step machine now move = some next) (unmaps : Unmaps now) : Unmaps next := by
  have stays (instruction : Instruction) {store : Store} (unmapped : store.mapped = false) :
      (act instruction store).mapped = false := by
    cases instruction with
    | unmap => rfl
    | _ => exact unmapped
  obtain ⟨store, parents, children⟩ := now
  cases move with
  | outside event =>
    cases stepped
    exact unmaps
  | child =>
    cases children with
    | nil => cases stepped
    | cons instruction rest =>
      simp only [step, Option.ite_none_right_eq_some, Option.some.injEq] at stepped
      obtain ⟨-, rfl⟩ := stepped
      exact unmaps.imp_left (stays instruction)
  | parent =>
    cases parents with
    | nil => cases stepped
    | cons instruction rest =>
      simp only [step, Option.ite_none_right_eq_some, Option.some.injEq] at stepped
      obtain ⟨-, rfl⟩ := stepped
      rcases unmaps with already | member
      · exact Or.inl (stays instruction already)
      · rcases List.mem_cons.mp member with rfl | later
        · exact Or.inl rfl
        · exact Or.inr later

/-- Every run can go on to the end of both processes, by when the region is unmapped. -/
theorem run_to_unmap {now : Processes Store Instruction} (unmaps : Unmaps now) :
    ∃ moves taken last, run (step machine) now moves = some (taken, last) ∧
      last.parent = [] ∧ last.store.mapped = false := by
  obtain ⟨store, parent, child⟩ := now
  obtain ⟨moves, taken, last, ran, ended⟩ := run_to_check store child parent []
  rw [List.append_nil] at ran
  have unmapped := run_keeps (step machine) Unmaps (fun _ _ _ => step_unmaps) ran unmaps
  refine ⟨moves, taken, last, ran, ended, unmapped.resolve_right ?_⟩
  rw [ended]
  exact List.not_mem_nil

/-- In some interleaving the parent gets to its check. -/
theorem Demo.reaches_check (demo : Demo) (offsets : List UInt64) (store : Store)
    (child : List Instruction) :
    ∃ moves taken last rest,
      run (step machine) ⟨store, (demo.sharing offsets).parent, child⟩ moves = some (taken, last) ∧
      last.parent = .check :: rest := by
  obtain ⟨cleanup, program, -⟩ := demo.parent_eq offsets
  obtain ⟨moves, taken, last, ran, reached⟩ :=
    run_to_check store child [.waitForUser, .waitpid] (.check :: cleanup)
  rw [← program] at ran
  exact ⟨moves, taken, last, cleanup, ran, reached⟩

/-- The parent can get to its check, and in every interleaving it finds the byte of its child at
the start of every page when it looks. It unmaps the region only after its child has ended, and
every run can go on to where it has done so. -/
theorem demo_check_sees_child (demo : Demo) (sizeMb : UInt64) (bytes : UInt64 → Char)
    (input : Input) :
    ∃ start, demo.forked sizeMb bytes input = some start ∧
      (∃ moves taken last rest, run (step machine) start moves = some (taken, last) ∧
        last.parent = .check :: rest) ∧
      ∀ moves taken last, run (step machine) start moves = some (taken, last) →
        (∀ rest, last.parent = .check :: rest → last.child = [] ∧
          ∀ pageSize, 4096 ∣ pageSize → ∀ offset < sizeBytes sizeMb,
            pageSize ∣ offset.toNat → last.store.bytes offset = demo.childByte) ∧
        (last.store.mapped = false → last.child = []) ∧
        ∃ more later final, run (step machine) last more = some (later, final) ∧
          final.parent = [] ∧ final.store.mapped = false := by
  obtain ⟨offsets, listed, member⟩ := pageOffsets_spec sizeMb
  refine ⟨(demo.sharing offsets).forked bytes input, by rw [Demo.forked, listed]; rfl,
    demo.reaches_check offsets _ _, ?_⟩
  intro moves taken last ran
  obtain ⟨cleanup, program, once, gives⟩ := demo.parent_eq offsets
  refine ⟨?_, ?_, ?_⟩
  · intro rest reached
    obtain ⟨ended, seen⟩ := seen_at regionView ran program (by decide) once reached
      ⟨.waitpid, by decide, rfl⟩ fun other inside => regionView_silent (by revert other; decide)
    refine ⟨ended, fun pageSize grid offset below multiple => ?_⟩
    have written : offset ∈ offsets := (member offset).mpr ⟨below, Nat.dvd_trans grid multiple⟩
    change last.store.bytes = _ at seen
    rw [seen]
    exact (demo.after_child offsets _ offset).trans (if_pos written)
  · exact unmapped_after_child ran program (demo.child_maps offsets)
      (Sharing.forked_mapped (demo.setUp_maps offsets) bytes input)
  · have unmaps : Unmaps ((demo.sharing offsets).forked bytes input) := by
      apply Or.inr
      change .unmap ∈ (demo.sharing offsets).parent
      rw [program]
      exact List.mem_append_right _ (List.mem_cons_of_mem _ gives)
    exact run_to_unmap (run_keeps (step machine) Unmaps (fun _ _ _ => step_unmaps) ran unmaps)

end MemoryDemo.Darwin.SharedPages
