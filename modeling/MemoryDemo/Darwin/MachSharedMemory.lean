import MemoryDemo.Darwin.SharedPages

/-! The demo of `macos/process/mach_shared_memory_demo.cpp`: a region of the parent is shared
with a child that maps a memory entry for it, and the parent looks at the first byte once the
child has ended. A successful mapping shares the pages with the region of the parent. -/

namespace MemoryDemo.Darwin.MachSharedMemory
open Library.ForkJoin Library.Transition
open FootprintDemos (sizeBytes)
open SharedPages

/-- How the calls end whose failure the demo looks at. The size that comes back with the
memory entry stays in a variable of the function that makes it. -/
structure Kernel where
  vmAllocate : Bool
  machMakeMemoryEntry : Option UInt64
  fork : Bool
  vmMap : Bool
  deriving DecidableEq, Repr

/-- Fresh memory is filled with zeros. -/
def zeroFilled : UInt64 → Char :=
  fun _ => '\x00'

/-- What the function does to the region; `none` where it returns `false`. -/
def createMachSharedMemory (kernel : Kernel) (offsets : List UInt64) : Option (List Instruction) :=
  if kernel.vmAllocate then
    match kernel.machMakeMemoryEntry with
    | none => none
    | some _ => some (writePages 'M' offsets)
  else none

def childProgram (kernel : Kernel) (offsets : List UInt64) : List Instruction :=
  if kernel.vmMap then
    .read 0 :: (writePages 'C' offsets ++
      [.call "vm_deallocate", .call "mach_port_deallocate", .exit 0])
  else [.exit 1]

/-- The status that comes with the end of the child is not looked at. -/
def parentProgram : List Instruction :=
  [.waitpid, .check, .call "mach_port_deallocate", .unmap]

/-- The two processes behind the `fork`; `none` where the demo returns before it. -/
def demoMachSharedMemory (kernel : Kernel) (sizeMb : UInt64) (input : Input) :
    Option (Processes Store Instruction) := do
  let offsets ← pageOffsets (sizeBytes sizeMb)
  let setUp ← createMachSharedMemory kernel offsets
  if kernel.fork then
    some ((Sharing.mk setUp (childProgram kernel offsets) parentProgram).forked zeroFilled input)
  else none

theorem demo_forks {kernel : Kernel} {sizeMb : UInt64} {input : Input}
    {start : Processes Store Instruction} {offsets : List UInt64}
    (listed : pageOffsets (sizeBytes sizeMb) = some offsets)
    (forked : demoMachSharedMemory kernel sizeMb input = some start) :
    start = (Sharing.mk (writePages 'M' offsets) (childProgram kernel offsets)
      parentProgram).forked zeroFilled input := by
  simp only [demoMachSharedMemory, listed, Option.bind_eq_bind, Option.bind_some,
    Option.bind_eq_some_iff, Option.ite_none_right_eq_some, Option.some.injEq] at forked
  obtain ⟨setUp, created, -, rfl⟩ := forked
  unfold createMachSharedMemory at created
  split at created
  next =>
    split at created
    next => cases created
    next =>
      cases created
      rfl
  next => cases created

/-- Whatever the order of the steps, the region is at the check what the child has made of
the bytes that the parent had written. -/
theorem check_bytes {kernel : Kernel} {sizeMb : UInt64} {input : Input}
    {start last : Processes Store Instruction} {offsets : List UInt64}
    (listed : pageOffsets (sizeBytes sizeMb) = some offsets)
    (forked : demoMachSharedMemory kernel sizeMb input = some start)
    {moves : List (Move Input)} {taken : List (Processes Store Instruction × Move Input)}
    (ran : run (step machine) start moves = some (taken, last)) {rest : List Instruction}
    (reached : last.parent = .check :: rest) (offset : UInt64) :
    last.store.bytes offset =
      if offset ∈ offsets then (if kernel.vmMap then 'C' else 'M') else '\x00' := by
  have same := demo_forks listed forked
  subst same
  have program : parentProgram =
      [.waitpid] ++ .check :: [.call "mach_port_deallocate", .unmap] := rfl
  obtain ⟨ended, seen⟩ := seen_at regionView ran program (by decide) (by decide) reached
    ⟨.waitpid, by decide, rfl⟩ fun other inside => regionView_silent (by revert other; decide)
  change last.store.bytes = regionView.after (childProgram kernel offsets)
    (regionView.view ((writePages 'M' offsets).foldl
      (fun store instruction => machine.act instruction store) _)) at seen
  rw [View.view_foldl] at seen
  rw [seen]
  by_cases mapped : kernel.vmMap = true
  · rw [childProgram, if_pos mapped, if_pos mapped,
      after_readThenWrite 'C' offsets _ (by decide), after_writePages]
    by_cases inside : offset ∈ offsets
    · rw [if_pos inside, if_pos inside]
    · rw [if_neg inside, if_neg inside, if_neg inside]
      rfl
  · rw [childProgram, if_neg mapped, if_neg mapped]
    exact after_writePages 'M' offsets zeroFilled offset

/-- Whenever the parent looks, the child has written to the first byte, and to every page, if
and only if it could map a region that is not empty. -/
theorem mach_check_iff {kernel : Kernel} {sizeMb : UInt64} {input : Input}
    {start last : Processes Store Instruction}
    (forked : demoMachSharedMemory kernel sizeMb input = some start)
    {moves : List (Move Input)} {taken : List (Processes Store Instruction × Move Input)}
    (ran : run (step machine) start moves = some (taken, last)) {rest : List Instruction}
    (reached : last.parent = .check :: rest) :
    (last.store.bytes 0 = 'C' ∧
        ∀ offset < sizeBytes sizeMb, 4096 ∣ offset.toNat → last.store.bytes offset = 'C') ↔
      kernel.vmMap = true ∧ sizeBytes sizeMb ≠ 0 := by
  obtain ⟨offsets, listed, member⟩ := pageOffsets_spec sizeMb
  have bytes := check_bytes listed forked ran reached
  have first : 0 ∈ offsets ↔ sizeBytes sizeMb ≠ 0 := by
    rw [member, UInt64.lt_iff_toNat_lt, Ne, ← UInt64.toNat_inj]
    simp only [UInt64.toNat_zero, Nat.dvd_zero, and_true, Nat.pos_iff_ne_zero]
  constructor
  · rintro ⟨child, -⟩
    rw [bytes 0] at child
    by_cases inside : 0 ∈ offsets
    · rw [if_pos inside] at child
      by_cases mapped : kernel.vmMap = true
      · exact ⟨mapped, first.mp inside⟩
      · rw [if_neg mapped] at child
        exact absurd child (by decide)
    · rw [if_neg inside] at child
      exact absurd child (by decide)
  · rintro ⟨mapped, nonempty⟩
    have written : ∀ offset ∈ offsets, last.store.bytes offset = 'C' := by
      intro offset inside
      rw [bytes, if_pos inside, if_pos mapped]
    exact ⟨written 0 (first.mpr nonempty), fun offset below multiple =>
      written offset ((member offset).mpr ⟨below, multiple⟩)⟩

/-- From every `fork` of the demo the parent can get to its check. -/
theorem mach_reaches_check {kernel : Kernel} {sizeMb : UInt64} {input : Input}
    {start : Processes Store Instruction}
    (forked : demoMachSharedMemory kernel sizeMb input = some start) :
    ∃ moves taken last rest, run (step machine) start moves = some (taken, last) ∧
      last.parent = .check :: rest := by
  obtain ⟨offsets, listed, -⟩ := pageOffsets_spec sizeMb
  have same := demo_forks listed forked
  subst same
  obtain ⟨moves, taken, last, ran, reached⟩ := run_to_check _ (childProgram kernel offsets)
    [.waitpid] [.check, .call "mach_port_deallocate", .unmap]
  exact ⟨moves, taken, last, _, ran, reached⟩

/-- The demo forks if its calls succeed. -/
theorem demo_forked (kernel : Kernel) (allocated : kernel.vmAllocate = true) {size : UInt64}
    (entry : kernel.machMakeMemoryEntry = some size) (fork : kernel.fork = true)
    (sizeMb : UInt64) (input : Input) :
    ∃ start, demoMachSharedMemory kernel sizeMb input = some start := by
  obtain ⟨offsets, listed, -⟩ := pageOffsets_spec sizeMb
  refine ⟨(Sharing.mk (writePages 'M' offsets) (childProgram kernel offsets)
    parentProgram).forked zeroFilled input, ?_⟩
  rw [demoMachSharedMemory, listed, Option.bind_eq_bind, Option.bind_some, createMachSharedMemory,
    if_pos allocated, entry]
  exact if_pos fork

theorem mach_check_iff_mapped :
    ∃ start moves taken last rest,
      demoMachSharedMemory ⟨true, some 52428800, true, true⟩ 50 ⟨0, false⟩ = some start ∧
      run (step machine) start moves = some (taken, last) ∧ last.parent = .check :: rest ∧
      last.store.bytes 0 = 'C' := by
  obtain ⟨start, forked⟩ := demo_forked ⟨true, some 52428800, true, true⟩ rfl rfl rfl
    50 ⟨0, false⟩
  obtain ⟨moves, taken, last, rest, ran, reached⟩ := mach_reaches_check forked
  exact ⟨start, moves, taken, last, rest, forked, ran, reached,
    ((mach_check_iff forked ran reached).mpr ⟨rfl, by decide⟩).1⟩

/-- A child that cannot map the memory entry leaves the byte of its parent. -/
theorem mach_check_unmapped :
    ∃ start moves taken last rest,
      demoMachSharedMemory ⟨true, some 16384, true, false⟩ 50 ⟨0, false⟩ = some start ∧
      run (step machine) start moves = some (taken, last) ∧ last.parent = .check :: rest ∧
      last.store.bytes 0 = 'M' := by
  obtain ⟨start, forked⟩ := demo_forked ⟨true, some 16384, true, false⟩ rfl rfl rfl
    50 ⟨0, false⟩
  obtain ⟨moves, taken, last, rest, ran, reached⟩ := mach_reaches_check forked
  obtain ⟨offsets, listed, member⟩ := pageOffsets_spec 50
  refine ⟨start, moves, taken, last, rest, forked, ran, reached, ?_⟩
  rw [check_bytes listed forked ran reached, if_pos ((member 0).mpr ⟨by decide, by decide⟩)]
  rfl

end MemoryDemo.Darwin.MachSharedMemory
