import MemoryDemo.Library.Hosted
import MemoryDemo.Library.PageGrid
import MemoryDemo.Windows.AllocationDemos
import MemoryDemo.Windows.VirtualAddress
import MemoryDemo.Windows.WorkingSet

/-! The demos of `windows/process/memory_metrics_demo.cpp` on the pages of their process, and
what moves in the figures that they print before and after they allocate. -/

namespace MemoryDemo.Windows.MetricsDemos
open Library.CallTree Library.Hosted Library.PageGrid Library.Stride
open AllocationDemos (sizeBytes sizeBytes_bounded)
open ProcessMonitor VirtualAddress WorkingSet

/-- `MEM_RESERVE`, with or without `MEM_COMMIT`. -/
inductive Allocation where
  | reserve
  | reserveCommit
  deriving DecidableEq, Repr

/-- Memory is known by its address, a mapping by the value of its handle. `writePages` is the
loop that writes a byte at every multiple of 4096 below the size. -/
inductive Call where
  | printProcessMemoryInfo
  | waitForUser
  | virtualAlloc (size : UInt64) (allocation : Allocation)
  | virtualFree (start : Nat)
  | newArray (size : UInt64)
  | deleteArray (start : Nat)
  | createFileMapping (maximumSizeLow : UInt32) (name : String)
  | mapViewOfFile (mapping : Nat) (size : UInt64)
  | unmapViewOfFile (start : Nat)
  | closeHandle (mapping : Nat)
  | writePages (start : Nat) (size : UInt64)
  deriving Repr

/-- The answer to a call; `none` is its failure. -/
@[reducible] def Answer : Call → Type
  | .virtualAlloc _ _ | .newArray _ | .createFileMapping _ _ | .mapViewOfFile _ _ => Option Nat
  | .printProcessMemoryInfo | .waitForUser | .virtualFree _ | .deleteArray _ => Unit
  | .unmapViewOfFile _ | .closeHandle _ | .writePages _ _ => Unit

abbrev Action : Type := Program Call Answer Unit

abbrev ask (request : Call) : Program Call Answer (Answer request) :=
  Program.ask request

/-- The two demos of `VirtualAlloc`, which differ in what they ask for. -/
def virtualAllocDemo (allocation : Allocation) (sizeMB : UInt64) : Action := do
  ask .printProcessMemoryInfo
  let some allocated ← ask (.virtualAlloc (sizeBytes sizeMB) allocation)
    | return ()
  ask .printProcessMemoryInfo
  ask .waitForUser
  ask (.virtualFree allocated)

def demoVirtualAddressReserve (sizeMB : UInt64) : Action :=
  virtualAllocDemo .reserve sizeMB

def demoCommittedMemory (sizeMB : UInt64) : Action :=
  virtualAllocDemo .reserveCommit sizeMB

/-- Nobody catches the exception of a `new` that fails. -/
def demoPrivateWorkingSet (sizeMB : UInt64) : Action := do
  ask .printProcessMemoryInfo
  let some buffer ← ask (.newArray (sizeBytes sizeMB))
    | Program.halt
  ask (.writePages buffer (sizeBytes sizeMB))
  ask .printProcessMemoryInfo
  ask .waitForUser
  ask (.deleteArray buffer)

def demoSharedMemory (sizeMB : UInt64) : Action := do
  ask .printProcessMemoryInfo
  let some hMapFile ← ask (.createFileMapping (sizeBytes sizeMB).toUInt32 "SharedMemoryDemo")
    | return ()
  let some pBuf ← ask (.mapViewOfFile hMapFile (sizeBytes sizeMB))
    | ask (.closeHandle hMapFile)
  ask (.writePages pBuf (sizeBytes sizeMB))
  ask .printProcessMemoryInfo
  ask .waitForUser
  ask (.unmapViewOfFile pBuf)
  ask (.closeHandle hMapFile)

inductive Demo where
  | virtualAddressReserve
  | committedMemory
  | privateWorkingSet
  | sharedMemory
  deriving DecidableEq, Repr

def Demo.action : Demo → UInt64 → Action
  | .virtualAddressReserve => demoVirtualAddressReserve
  | .committedMemory => demoCommittedMemory
  | .privateWorkingSet => demoPrivateWorkingSet
  | .sharedMemory => demoSharedMemory

def main : Action := do
  ask .printProcessMemoryInfo
  ask .waitForUser
  demoVirtualAddressReserve 100
  demoCommittedMemory 100
  demoPrivateWorkingSet 100
  demoSharedMemory 100
  ask .printProcessMemoryInfo
  ask .waitForUser

/-- The pages of the process, what lies behind the addresses it was given, its open mappings,
and its pages at each print so far. -/
structure Memory where
  pages : Pages
  regions : Nat → Option (Finset Nat)
  mappings : Finset Nat
  prints : List Pages

/-- The pages are in the same use; any of them may have left the working set or joined it. -/
structure SameSpace (before after : Pages) : Prop where
  inUse : after.inUse = before.inUse
  committed : after.committed = before.committed
  shared : after.shared = before.shared

/-- What others may do to the pages of the process between its calls. -/
structure System where
  moves : Pages → Pages → Prop
  keeps : ∀ {before after}, moves before after → SameSpace before after
  idle : ∀ pages, moves pages pages

/-- The working set belongs to the process alone. -/
def System.Calm (system : System) : Prop :=
  ∀ before after, system.moves before after → after = before

/-- Free pages behind a new address. -/
structure Memory.Gains (memory : Memory) (action : Finset Nat → VirtualAddress.Action)
    (start : Nat) (range : Finset Nat) (after : Memory) : Prop where
  unknown : memory.regions start = none
  free : Disjoint range memory.pages.inUse
  becomes : ∃ pages, step memory.pages (action range) = some pages ∧
    after = { memory with pages, regions := Function.update memory.regions start (some range) }

/-- The pages behind an address go with it. -/
def Memory.Loses (memory : Memory) (start : Nat) (after : Memory) : Prop :=
  ∃ range pages, memory.regions start = some range ∧
    step memory.pages (.release range) = some pages ∧
    after = { memory with pages, regions := Function.update memory.regions start none }

/-- The loop makes the pages resident that it writes to. -/
def Memory.Touches (memory : Memory) (start : Nat) (size : UInt64) (after : Memory) : Prop :=
  ∃ seen pages, offsets size 4096 = some seen ∧
    step memory.pages (.touch (seen.map fun index => (start + index) / 4096).toFinset) =
      some pages ∧
    after = { memory with pages }

def Allocation.action : Allocation → Finset Nat → VirtualAddress.Action
  | .reserve => .reserve
  | .reserveCommit => .commit false

/-- The range starts at the address and has the pages of so many bytes. -/
structure Fills (range : Finset Nat) (start : Nat) (size : UInt64) : Prop where
  positive : 0 < size.toNat
  aligned : 4096 ∣ start
  pages : ∀ page, page ∈ range ↔ Overlaps 4096 start size.toNat page

/-- How Windows answers. A block of `new` gets pages of its own, which may be more than it
needs; what `VirtualAlloc` and `MapViewOfFile` give has just the pages that were asked for.
Releasing calls succeed. -/
def Answers (memory : Memory) : Exchange Call Answer → Memory → Prop
  | ⟨.printProcessMemoryInfo, _⟩, after =>
    after = { memory with prints := memory.prints ++ [memory.pages] }
  | ⟨.waitForUser, _⟩, after => after = memory
  | ⟨.virtualAlloc _ _, none⟩, after => after = memory
  | ⟨.virtualAlloc size allocation, some start⟩, after =>
    ∃ range, Fills range start size ∧ memory.Gains allocation.action start range after
  | ⟨.virtualFree start, _⟩, after => memory.Loses start after
  | ⟨.newArray _, none⟩, after => after = memory
  | ⟨.newArray size, some start⟩, after =>
    ∃ range, (∀ page, Overlaps 4096 start size.toNat page → page ∈ range) ∧
      memory.Gains (.commit false) start range after
  | ⟨.deleteArray start, _⟩, after => memory.Loses start after
  | ⟨.createFileMapping _ _, none⟩, after => after = memory
  | ⟨.createFileMapping maximumSizeLow _, some mapping⟩, after =>
    maximumSizeLow ≠ 0 ∧ mapping ∉ memory.mappings ∧
      after = { memory with mappings := insert mapping memory.mappings }
  | ⟨.mapViewOfFile _ _, none⟩, after => after = memory
  | ⟨.mapViewOfFile mapping size, some start⟩, after =>
    mapping ∈ memory.mappings ∧
      ∃ range, Fills range start size ∧ memory.Gains (.commit true) start range after
  | ⟨.unmapViewOfFile start, _⟩, after => memory.Loses start after
  | ⟨.closeHandle mapping, _⟩, after =>
    mapping ∈ memory.mappings ∧
      after = { memory with mappings := memory.mappings.erase mapping }
  | ⟨.writePages start size, _⟩, after => memory.Touches start size after

/-- The system moves before Windows answers. -/
def windows (system : System) : Host Call Answer Memory := fun memory exchange after =>
  ∃ pages, system.moves memory.pages pages ∧ Answers { memory with pages } exchange after

section Spaces
variable {before middle after : Pages} {range committed shared touched : Finset Nat}

theorem SameSpace.trans (first : SameSpace before middle) (second : SameSpace middle after) :
    SameSpace before after :=
  ⟨second.inUse.trans first.inUse, second.committed.trans first.committed,
    second.shared.trans first.shared⟩

theorem sameSpace_of_touch (stepped : step before (.touch range) = some after) :
    SameSpace before after := by
  simp only [step, Option.dite_none_right_eq_some, Option.some.injEq] at stepped
  obtain ⟨able, rfl⟩ := stepped
  exact ⟨rfl, rfl, rfl⟩

/-- A range of new pages is in use beside the others: those of its pages that are committed,
and those that are shared. -/
structure Adds (range committed shared : Finset Nat) (before after : Pages) : Prop where
  free : Disjoint range before.inUse
  inside : committed ⊆ range
  part : shared ⊆ committed
  inUse : after.inUse = before.inUse ∪ range
  committed : after.committed = before.committed ∪ committed
  shared : after.shared = before.shared ∪ shared

theorem Adds.moved (adds : Adds range committed shared before middle)
    (moved : SameSpace middle after) : Adds range committed shared before after where
  free := adds.free
  inside := adds.inside
  part := adds.part
  inUse := moved.inUse.trans adds.inUse
  committed := moved.committed.trans adds.committed
  shared := moved.shared.trans adds.shared

theorem union_sdiff_of_disjoint {part : Finset Nat} (inside : touched ⊆ range)
    (free : Disjoint range part) : (part ∪ touched) \ range = part := by
  rw [Finset.union_sdiff_distrib, Finset.sdiff_eq_empty_iff_subset.mpr inside,
    Finset.union_empty]
  exact Finset.sdiff_eq_self_of_disjoint free.symm

/-- Releasing the range brings back what there was. -/
theorem Adds.released (adds : Adds range committed shared before middle)
    (stepped : step middle (.release range) = some after) : SameSpace before after := by
  simp only [step, Option.some.injEq] at stepped
  subst stepped
  have other : Disjoint range before.committed := adds.free.mono_right before.committed_inUse
  constructor
  · change middle.inUse \ range = before.inUse
    rw [adds.inUse, union_sdiff_of_disjoint (Finset.Subset.refl _) adds.free]
  · change middle.committed \ range = before.committed
    rw [adds.committed, union_sdiff_of_disjoint adds.inside other]
  · change middle.shared \ range = before.shared
    rw [adds.shared, union_sdiff_of_disjoint (adds.part.trans adds.inside)
      (other.mono_right before.shared_committed)]

theorem Adds.from_moved (moved : SameSpace before middle)
    (adds : Adds range committed shared middle after) :
    Adds range committed shared before after where
  free := moved.inUse ▸ adds.free
  inside := adds.inside
  part := adds.part
  inUse := moved.inUse ▸ adds.inUse
  committed := moved.committed ▸ adds.committed
  shared := moved.shared ▸ adds.shared

theorem Adds.privateCommitted (adds : Adds range committed shared before after) :
    after.privateCommitted.card = before.privateCommitted.card + (committed \ shared).card := by
  have free := (adds.free.mono_left adds.inside).mono_right before.committed_inUse
  have split : after.privateCommitted = before.privateCommitted ∪ (committed \ shared) := by
    ext page
    have known := @before.shared_committed page
    have new := @adds.part page
    have apart : page ∈ committed → page ∉ before.committed :=
      fun member => Finset.disjoint_left.mp free member
    simp only [Pages.privateCommitted, adds.committed, adds.shared, Finset.mem_sdiff,
      Finset.mem_union]
    tauto
  rw [split, Finset.card_union_of_disjoint]
  exact (free.mono Finset.sdiff_subset Finset.sdiff_subset).symm

theorem Adds.residentShared (adds : Adds range committed shared before after)
    (inside : touched ⊆ range) (resident : after.resident = before.resident ∪ touched) :
    (after.resident ∩ after.shared).card =
      (before.resident ∩ before.shared).card + (touched ∩ shared).card := by
  have known := before.resident_committed.trans before.committed_inUse
  have split : after.resident ∩ after.shared =
      (before.resident ∩ before.shared) ∪ (touched ∩ shared) := by
    ext page
    have first : page ∈ touched → page ∉ before.shared := fun member used =>
      Finset.disjoint_left.mp adds.free (inside member)
        (before.committed_inUse (before.shared_committed used))
    have second : page ∈ shared → page ∉ before.resident := fun member used =>
      Finset.disjoint_left.mp adds.free (adds.inside (adds.part member)) (known used)
    simp only [resident, adds.shared, Finset.mem_inter, Finset.mem_union]
    tauto
  rw [split, Finset.card_union_of_disjoint]
  exact (adds.free.mono (Finset.inter_subset_left.trans inside)
    (Finset.inter_subset_left.trans known)).symm

end Spaces

/-- The numbers of pages that the figures are made of. -/
structure Counts where
  inUse : Nat
  privateCommitted : Nat
  resident : Nat
  residentShared : Nat
  deriving DecidableEq, Repr

/-- By how much the counts rise. Only in a calm system can the working set tell. -/
structure Rises (system : System) (rise : Counts) (before after : Pages) : Prop where
  inUse : after.inUse.card = before.inUse.card + rise.inUse
  privateCommitted :
    after.privateCommitted.card = before.privateCommitted.card + rise.privateCommitted
  resident : system.Calm → after.resident.card = before.resident.card + rise.resident
  residentShared : system.Calm → (after.resident ∩ after.shared).card =
    (before.resident ∩ before.shared).card + rise.residentShared

theorem Adds.rises {before after : Pages} {range committed shared touched : Finset Nat}
    {system : System} (adds : Adds range committed shared before after)
    (inside : touched ⊆ range)
    (resident : system.Calm → after.resident = before.resident ∪ touched) :
    Rises system ⟨range.card, (committed \ shared).card, touched.card, (touched ∩ shared).card⟩
      before after where
  inUse := by rw [adds.inUse, Finset.card_union_of_disjoint adds.free.symm]
  privateCommitted := adds.privateCommitted
  resident calm := by
    have known := before.resident_committed.trans before.committed_inUse
    rw [resident calm, Finset.card_union_of_disjoint]
    exact (adds.free.mono inside known).symm
  residentShared calm := adds.residentShared inside (resident calm)

section Rules
variable {system : System} {halted : Memory → Prop} {memory : Memory}

theorem sure_print {post : Unit → Memory → Prop}
    (holds : ∀ pages, system.moves memory.pages pages →
      post () { memory with pages, prints := memory.prints ++ [pages] }) :
    Sure (windows system) halted (ask .printProcessMemoryInfo) memory post := by
  refine ⟨⟨(), _, memory.pages, system.idle _, rfl⟩, ?_⟩
  rintro answer after ⟨pages, moved, rfl⟩
  exact holds pages moved

theorem sure_wait {post : Unit → Memory → Prop}
    (holds : ∀ pages, system.moves memory.pages pages → post () { memory with pages }) :
    Sure (windows system) halted (ask .waitForUser) memory post := by
  refine ⟨⟨(), _, memory.pages, system.idle _, rfl⟩, ?_⟩
  rintro answer after ⟨pages, moved, rfl⟩
  exact holds pages moved

/-- A print while the system leaves the pages alone. -/
theorem can_print {post : Unit → Memory → Prop}
    (holds : post () { memory with prints := memory.prints ++ [memory.pages] }) :
    Can (windows system) (ask .printProcessMemoryInfo) memory post :=
  can_ask ⟨memory.pages, system.idle _, rfl⟩ holds

theorem can_wait {post : Unit → Memory → Prop} (holds : post () memory) :
    Can (windows system) (ask .waitForUser) memory post :=
  can_ask ⟨memory.pages, system.idle _, rfl⟩ holds

theorem sure_virtualAlloc {size : UInt64} {allocation : Allocation}
    {post : Option Nat → Memory → Prop}
    (refused : ∀ pages, system.moves memory.pages pages → post none { memory with pages })
    (granted : ∀ pages start range after, system.moves memory.pages pages →
      Fills range start size →
      Memory.Gains { memory with pages } allocation.action start range after →
      post (some start) after) :
    Sure (windows system) halted (ask (.virtualAlloc size allocation)) memory post := by
  refine ⟨⟨none, _, memory.pages, system.idle _, rfl⟩, ?_⟩
  intro answer after served
  obtain ⟨pages, moved, answered⟩ := served
  cases answer with
  | none =>
    cases answered
    exact refused pages moved
  | some start =>
    obtain ⟨range, fills, gains⟩ := answered
    exact granted pages start range after moved fills gains

theorem sure_newArray {size : UInt64} {post : Option Nat → Memory → Prop}
    (refused : ∀ pages, system.moves memory.pages pages → post none { memory with pages })
    (granted : ∀ pages start range after, system.moves memory.pages pages →
      (∀ page, Overlaps 4096 start size.toNat page → page ∈ range) →
      Memory.Gains { memory with pages } (.commit false) start range after →
      post (some start) after) :
    Sure (windows system) halted (ask (.newArray size)) memory post := by
  refine ⟨⟨none, _, memory.pages, system.idle _, rfl⟩, ?_⟩
  intro answer after served
  obtain ⟨pages, moved, answered⟩ := served
  cases answer with
  | none =>
    cases answered
    exact refused pages moved
  | some start =>
    obtain ⟨range, covers, gains⟩ := answered
    exact granted pages start range after moved covers gains

theorem sure_createFileMapping {maximumSizeLow : UInt32} {name : String}
    {post : Option Nat → Memory → Prop}
    (refused : ∀ pages, system.moves memory.pages pages → post none { memory with pages })
    (granted : ∀ pages mapping, system.moves memory.pages pages → mapping ∉ memory.mappings →
      post (some mapping) { memory with pages, mappings := insert mapping memory.mappings }) :
    Sure (windows system) halted (ask (.createFileMapping maximumSizeLow name)) memory post := by
  refine ⟨⟨none, _, memory.pages, system.idle _, rfl⟩, ?_⟩
  intro answer after served
  obtain ⟨pages, moved, answered⟩ := served
  cases answer with
  | none =>
    cases answered
    exact refused pages moved
  | some mapping =>
    obtain ⟨sized, fresh, rfl⟩ := answered
    exact granted pages mapping moved fresh

theorem sure_mapViewOfFile {mapping : Nat} {size : UInt64} {post : Option Nat → Memory → Prop}
    (refused : ∀ pages, system.moves memory.pages pages → post none { memory with pages })
    (granted : ∀ pages start range after, system.moves memory.pages pages →
      Fills range start size → Memory.Gains { memory with pages } (.commit true) start range after →
      post (some start) after) :
    Sure (windows system) halted (ask (.mapViewOfFile mapping size)) memory post := by
  refine ⟨⟨none, _, memory.pages, system.idle _, rfl⟩, ?_⟩
  intro answer after served
  obtain ⟨pages, moved, answered⟩ := served
  cases answer with
  | none =>
    cases answered
    exact refused pages moved
  | some start =>
    obtain ⟨opened, range, fills, gains⟩ := answered
    exact granted pages start range after moved fills gains

theorem sure_closeHandle {mapping : Nat} {post : Unit → Memory → Prop}
    (opened : mapping ∈ memory.mappings)
    (holds : ∀ pages, system.moves memory.pages pages →
      post () { memory with pages, mappings := memory.mappings.erase mapping }) :
    Sure (windows system) halted (ask (.closeHandle mapping)) memory post := by
  refine ⟨⟨(), _, memory.pages, system.idle _, opened, rfl⟩, ?_⟩
  rintro answer after ⟨pages, moved, _, rfl⟩
  exact holds pages moved

/-- The loop reaches its end, and all that it writes to is committed. -/
theorem sure_writePages {start : Nat} {size : UInt64} {seen : List Nat}
    {post : Unit → Memory → Prop} (walked : offsets size 4096 = some seen)
    (able : (seen.map fun index => (start + index) / 4096).toFinset ⊆ memory.pages.committed)
    (holds : ∀ pages after, system.moves memory.pages pages →
      step pages (.touch (seen.map fun index => (start + index) / 4096).toFinset) = some after →
      post () { memory with pages := after }) :
    Sure (windows system) halted (ask (.writePages start size)) memory post := by
  constructor
  · exact ⟨(), _, memory.pages, system.idle _, seen, _, walked, dif_pos able, rfl⟩
  · rintro answer after ⟨pages, moved, seen', touched, walked', stepped, rfl⟩
    cases walked.symm.trans walked'
    exact holds pages touched moved stepped

/-- A call that gives back the pages behind an address. -/
def Releases (system : System) (halted : Memory → Prop) (release : Action) (start : Nat) : Prop :=
  ∀ (memory : Memory) (post : Unit → Memory → Prop), (∃ range, memory.regions start = some range) →
    (∀ pages after, system.moves memory.pages pages →
      Memory.Loses { memory with pages } start after → post () after) →
    Sure (windows system) halted release memory post

theorem releases_of_loses (request : Call) {start : Nat} (unit : Answer request = Unit)
    (loses : ∀ memory answer after,
      Answers memory ⟨request, answer⟩ after ↔ memory.Loses start after) :
    ∀ (memory : Memory) (post : Answer request → Memory → Prop),
      (∃ range, memory.regions start = some range) →
      (∀ answer pages after, system.moves memory.pages pages →
        Memory.Loses { memory with pages } start after → post answer after) →
      Sure (windows system) halted (ask request) memory post := by
  intro memory post held holds
  obtain ⟨range, held⟩ := held
  constructor
  · exact ⟨cast unit.symm (), _, memory.pages, system.idle _,
      (loses _ _ _).mpr ⟨range, _, held, rfl, rfl⟩⟩
  · rintro answer after ⟨pages, moved, answered⟩
    exact holds answer pages after moved ((loses _ _ _).mp answered)

theorem releases_virtualFree (start : Nat) :
    Releases system halted (ask (.virtualFree start)) start :=
  fun memory post held holds =>
    releases_of_loses (.virtualFree start) rfl (fun _ _ _ => Iff.rfl) memory post held
      fun _ => holds

theorem releases_deleteArray (start : Nat) :
    Releases system halted (ask (.deleteArray start)) start :=
  fun memory post held holds =>
    releases_of_loses (.deleteArray start) rfl (fun _ _ _ => Iff.rfl) memory post held
      fun _ => holds

theorem releases_unmapViewOfFile (start : Nat) :
    Releases system halted (ask (.unmapViewOfFile start)) start :=
  fun memory post held holds =>
    releases_of_loses (.unmapViewOfFile start) rfl (fun _ _ _ => Iff.rfl) memory post held
      fun _ => holds

end Rules

/-- What a granted request makes of the memory. -/
structure Placed (memory : Memory) (start : Nat) (range committed shared : Finset Nat)
    (after : Memory) : Prop where
  adds : Adds range committed shared memory.pages after.pages
  resident : after.pages.resident = memory.pages.resident
  unknown : memory.regions start = none
  regions : after.regions = Function.update memory.regions start (some range)
  mappings : after.mappings = memory.mappings
  prints : after.prints = memory.prints

section Placing
variable {memory after : Memory} {start : Nat} {range : Finset Nat}

theorem placed_reserve (gains : memory.Gains .reserve start range after) :
    Placed memory start range ∅ ∅ after := by
  obtain ⟨unknown, free, pages, stepped, rfl⟩ := gains
  simp only [step, Option.dite_none_right_eq_some, Option.some.injEq] at stepped
  obtain ⟨able, rfl⟩ := stepped
  exact ⟨⟨free, Finset.empty_subset _, Finset.empty_subset _, rfl, (Finset.union_empty _).symm,
    (Finset.union_empty _).symm⟩, rfl, unknown, rfl, rfl, rfl⟩

theorem placed_commit (gains : memory.Gains (.commit false) start range after) :
    Placed memory start range range ∅ after := by
  obtain ⟨unknown, free, pages, stepped, rfl⟩ := gains
  simp only [step, Option.dite_none_right_eq_some, Option.some.injEq] at stepped
  obtain ⟨able, rfl⟩ := stepped
  exact ⟨⟨free, Finset.Subset.refl _, Finset.empty_subset _, rfl, rfl,
    (Finset.union_empty _).symm⟩, rfl, unknown, rfl, rfl, rfl⟩

theorem placed_share (gains : memory.Gains (.commit true) start range after) :
    Placed memory start range range range after := by
  obtain ⟨unknown, free, pages, stepped, rfl⟩ := gains
  simp only [step, Option.dite_none_right_eq_some, Option.some.injEq] at stepped
  obtain ⟨able, rfl⟩ := stepped
  exact ⟨⟨free, Finset.Subset.refl _, Finset.Subset.refl _, rfl, rfl, rfl⟩, rfl, unknown, rfl,
    rfl, rfl⟩

end Placing

/-- A demo that has printed once and has its memory. -/
structure Ready (system : System) (memory : Memory) (first : Pages) (start : Nat)
    (range committed shared touched : Finset Nat) (now : Memory) : Prop where
  still : SameSpace memory.pages first
  adds : Adds range committed shared first now.pages
  inside : touched ⊆ range
  resident : system.Calm → now.pages.resident = first.resident ∪ touched
  unknown : memory.regions start = none
  regions : now.regions = Function.update memory.regions start (some range)
  prints : now.prints = memory.prints ++ [first]

section Readiness
variable {system : System} {memory now : Memory} {first : Pages} {start : Nat}
  {range committed shared touched : Finset Nat}

theorem Placed.ready {before : Memory} (placed : Placed before start range committed shared now)
    (memory : Memory) (still : SameSpace memory.pages first) (since : SameSpace first before.pages)
    (calm : system.Calm → before.pages = first) (regions : before.regions = memory.regions)
    (prints : before.prints = memory.prints ++ [first]) :
    Ready system memory first start range committed shared ∅ now where
  still := still
  adds := placed.adds.from_moved since
  inside := Finset.empty_subset range
  resident alone := by
    rw [placed.resident, calm alone, Finset.union_empty]
  unknown := regions ▸ placed.unknown
  regions := regions ▸ placed.regions
  prints := placed.prints.trans prints

/-- The loop of a demo that is ready. -/
theorem Ready.touches (ready : Ready system memory first start range committed shared ∅ now)
    (inside : touched ⊆ range) {pages after : Pages} (moved : system.moves now.pages pages)
    (stepped : step pages (.touch touched) = some after) :
    Ready system memory first start range committed shared touched { now with pages := after } where
  still := ready.still
  adds := (ready.adds.moved (system.keeps moved)).moved (sameSpace_of_touch stepped)
  inside := inside
  resident calm := by
    simp only [step, Option.dite_none_right_eq_some, Option.some.injEq] at stepped
    obtain ⟨able, rfl⟩ := stepped
    change pages.resident ∪ touched = _
    rw [calm _ _ moved, ready.resident calm, Finset.union_empty]
  unknown := ready.unknown
  regions := ready.regions
  prints := ready.prints

/-- The last part of a demo: what it prints now, and that it gives the memory back. -/
theorem Ready.sure_tail (ready : Ready system memory first start range committed shared touched now)
    {halted : Memory → Prop} {release : Action}
    (releases : Releases system halted release start) :
    Sure (windows system) halted (do ask .printProcessMemoryInfo; ask .waitForUser; release) now
      fun _ after => SameSpace memory.pages after.pages ∧ after.regions = memory.regions ∧
        after.mappings = now.mappings ∧
        (system.Calm → after.pages.resident = first.resident) ∧
        ∃ second, after.prints = memory.prints ++ [first, second] ∧
          Rises system ⟨range.card, (committed \ shared).card, touched.card,
            (touched ∩ shared).card⟩ first second := by
  have held : now.regions start = some range := by
    rw [ready.regions, Function.update_self]
  rw [sure_bind]
  apply sure_print
  intro second moved
  have seen := ready.adds.moved (system.keeps moved)
  rw [sure_bind]
  apply sure_wait
  intro third moved_on
  refine releases _ _ ⟨range, held⟩ ?_
  intro fourth after moved_again loses
  obtain ⟨range', pages, held', stepped, rfl⟩ := loses
  obtain rfl : range = range' := Option.some.inj (held.symm.trans held')
  have last := (seen.moved (system.keeps moved_on)).moved (system.keeps moved_again)
  refine ⟨ready.still.trans (last.released stepped), ?_, rfl, fun calm => ?_, second, ?_, ?_⟩
  · change Function.update now.regions start none = memory.regions
    rw [ready.regions, Function.update_idem, ← ready.unknown, Function.update_eq_self]
  · simp only [step, Option.some.injEq] at stepped
    subst stepped
    have known := first.resident_committed.trans first.committed_inUse
    change fourth.resident \ range = first.resident
    rw [calm _ _ moved_again, calm _ _ moved_on, calm _ _ moved, ready.resident calm]
    exact union_sdiff_of_disjoint ready.inside (ready.adds.free.mono_right known)
  · change now.prints ++ [second] = _
    rw [ready.prints, List.append_assoc]
    rfl
  · exact seen.rises ready.inside fun calm => by rw [calm _ _ moved, ready.resident calm]

end Readiness

theorem sizeBytes_pages (sizeMB : UInt64) : 4096 ∣ (sizeBytes sizeMB).toNat := by
  simp only [sizeBytes, UInt64.toNat_mul, UInt64.toNat_ofNat]
  omega

/-- How many pages a demo asks for. -/
def pagesOf (sizeMB : UInt64) : Nat :=
  (sizeBytes sizeMB).toNat / 4096

theorem Fills.card {range : Finset Nat} {start : Nat} {size : UInt64}
    (fills : Fills range start size) (whole : 4096 ∣ size.toNat) :
    range.card = size.toNat / 4096 := by
  obtain ⟨pages, sized⟩ := whole
  obtain ⟨first, placed⟩ := fills.aligned
  have positive := fills.positive
  have exact : range = Finset.Ico first (first + pages) := by
    ext page
    rw [fills.pages, overlaps_iff start (by decide) positive, Finset.mem_Ico]
    omega
  rw [exact, Nat.card_Ico]
  omega

/-- The pages that the loop writes to. -/
structure LoopPages (start : Nat) (size : UInt64) (seen : List Nat) : Prop where
  walked : offsets size 4096 = some seen
  hits : ∀ page, page ∈ (seen.map fun index => (start + index) / 4096).toFinset ↔
    Hits 4096 start size.toNat 4096 page

theorem loopPages (start : Nat) (sizeMB : UInt64) :
    ∃ seen, LoopPages start (sizeBytes sizeMB) seen := by
  obtain ⟨seen, walked, member⟩ := offsets_of_bounded (show 0 < (4096 : UInt64).toNat by decide)
    (show (sizeBytes sizeMB).toNat + (4096 : UInt64).toNat ≤ 2 ^ 64 from sizeBytes_bounded sizeMB)
  refine ⟨seen, walked, fun page => ?_⟩
  rw [List.mem_toFinset, List.mem_map]
  exact exists_congr fun index => and_congr_left fun _ => member index

theorem LoopPages.card {start : Nat} {size : UInt64} {seen : List Nat}
    (loop : LoopPages start size seen) (whole : 4096 ∣ size.toNat) :
    (seen.map fun index => (start + index) / 4096).toFinset.card = size.toNat / 4096 := by
  rcases Nat.eq_zero_or_pos size.toNat with none | positive
  · have empty : (seen.map fun index => (start + index) / 4096).toFinset = ∅ := by
      apply Finset.eq_empty_of_forall_notMem
      intro page member
      obtain ⟨index, ⟨below, _⟩, _⟩ := (loop.hits page).mp member
      omega
    rw [empty, none]
    rfl
  · have exact : (seen.map fun index => (start + index) / 4096).toFinset =
        Finset.Icc (start / 4096) ((start + size.toNat - 4096) / 4096) := by
      ext page
      rw [loop.hits, hits_iff start (by decide) (le_refl _) whole positive, Finset.mem_Icc]
    rw [exact, Nat.card_Icc]
    omega

/-- The loop stays inside a block that covers its bytes. -/
theorem LoopPages.inside {start : Nat} {size : UInt64} {seen : List Nat}
    (loop : LoopPages start size seen) {range : Finset Nat}
    (covers : ∀ page, Overlaps 4096 start size.toNat page → page ∈ range) :
    (seen.map fun index => (start + index) / 4096).toFinset ⊆ range := by
  intro page member
  obtain ⟨index, ⟨below, _⟩, rfl⟩ := (loop.hits page).mp member
  apply covers
  have split := Nat.div_add_mod (start + index) 4096
  have short := Nat.mod_lt (start + index) (show 0 < 4096 by decide)
  constructor <;> omega

/-- What a demo leaves that returns: the memory as it was, but for what the system has done to
its working set, and one print, or two with a rise between them. -/
structure Leaves (system : System) (expected : Counts → Prop) (memory after : Memory) : Prop where
  space : SameSpace memory.pages after.pages
  regions : after.regions = memory.regions
  mappings : after.mappings = memory.mappings
  resident : system.Calm → after.pages.resident = memory.pages.resident
  prints : ∃ first, SameSpace memory.pages first ∧
    (after.prints = memory.prints ++ [first] ∨ ∃ second rise,
      after.prints = memory.prints ++ [first, second] ∧ expected rise ∧
        Rises system rise first second)

/-- By how many pages the counts rise in a demo; a block of `new` may have more pages than
its bytes need. -/
def Demo.Expected (pages : Nat) : Demo → Counts → Prop
  | .virtualAddressReserve, rise => rise = ⟨pages, 0, 0, 0⟩
  | .committedMemory, rise => rise = ⟨pages, pages, 0, 0⟩
  | .privateWorkingSet, rise => ∃ block, pages ≤ block ∧ rise = ⟨block, block, pages, 0⟩
  | .sharedMemory, rise => rise = ⟨pages, 0, pages, pages⟩

/-- The memory is as it was, but for what the system has done to its working set, and has been
printed some more times. -/
structure Kept (system : System) (few many : Nat) (memory after : Memory) : Prop where
  space : SameSpace memory.pages after.pages
  regions : after.regions = memory.regions
  mappings : after.mappings = memory.mappings
  resident : system.Calm → after.pages.resident = memory.pages.resident
  prints : ∃ between, after.prints = memory.prints ++ between ∧
    few ≤ between.length ∧ between.length ≤ many

/-- There are unused pages at an unused address. -/
structure Room (memory : Memory) (size : UInt64) (start : Nat) (range : Finset Nat) : Prop where
  fills : Fills range start size
  user : ∀ page ∈ range, page < 2 ^ 51
  unknown : memory.regions start = none
  free : Disjoint range memory.pages.inUse

section Demos
variable {system : System} {halted : Memory → Prop} (sizeMB : UInt64) (memory : Memory)

/-- A demo that has printed twice, with what it leaves. -/
def LeavesTwice (system : System) (expected : Counts → Prop) (memory after : Memory) : Prop :=
  Leaves system expected memory after ∧
    ∃ first second, after.prints = memory.prints ++ [first, second]

section Pieces
variable {memory} {pages first : Pages} {start : Nat} {range : Finset Nat} {granted : Memory}

/-- Where a range of free pages can be placed, it is. -/
theorem Room.gains {size : UInt64} (room : Room memory size start range)
    {action : Finset Nat → VirtualAddress.Action}
    (able : ∃ pages, step memory.pages (action range) = some pages) :
    ∃ after, memory.Gains action start range after := by
  obtain ⟨pages, stepped⟩ := able
  exact ⟨_, room.unknown, room.free, pages, stepped, rfl⟩

theorem Room.reserves {size : UInt64} (room : Room memory size start range) :
    ∃ after, memory.Gains .reserve start range after :=
  room.gains ⟨_, dif_pos ⟨room.free, room.user⟩⟩

theorem Room.commits {size : UInt64} (room : Room memory size start range) (sharing : Bool) :
    ∃ after, memory.Gains (.commit sharing) start range after :=
  room.gains ⟨_, dif_pos ⟨room.free.mono_right memory.pages.committed_inUse, room.user⟩⟩

/-- What an allocation of `VirtualAlloc` makes of its range, and by how much the counts rise. -/
def Placing (allocation : Allocation) (sizeMB : UInt64) (expected : Counts → Prop) : Prop :=
  ∀ {before after : Memory} {start : Nat} {range : Finset Nat},
    before.Gains allocation.action start range after → range.card = pagesOf sizeMB →
    ∃ committed, Placed before start range committed ∅ after ∧
      expected ⟨range.card, (committed \ ∅).card, 0, 0⟩

theorem placing_reserve :
    Placing .reserve sizeMB (Demo.virtualAddressReserve.Expected (pagesOf sizeMB)) :=
  fun gains sized => ⟨∅, placed_reserve gains, by rw [sized]; rfl⟩

theorem placing_reserveCommit :
    Placing .reserveCommit sizeMB (Demo.committedMemory.Expected (pagesOf sizeMB)) :=
  fun gains sized => ⟨_, placed_commit gains, by rw [Finset.sdiff_empty, sized]; rfl⟩

/-- A demo of `VirtualAlloc` that has been granted its range. -/
theorem virtualAlloc_tail {allocation : Allocation} {expected : Counts → Prop}
    (places : Placing allocation sizeMB expected) (moved : system.moves memory.pages first)
    (moved_on : system.moves first pages) (fills : Fills range start (sizeBytes sizeMB))
    (gains : Memory.Gains ⟨pages, memory.regions, memory.mappings, memory.prints ++ [first]⟩
      allocation.action start range granted) :
    Sure (windows system) halted
      (do ask .printProcessMemoryInfo; ask .waitForUser; ask (.virtualFree start)) granted
      fun _ after => LeavesTwice system expected memory after := by
  have still := system.keeps moved
  obtain ⟨committed, placed, wanted⟩ := places gains (fills.card (sizeBytes_pages sizeMB))
  have ready := placed.ready memory still (system.keeps moved_on)
    (fun calm => calm _ _ moved_on) rfl rfl
  apply (ready.sure_tail (releases_virtualFree start)).mono
  rintro value after ⟨space, regions, mappings, resident, second, prints, rises⟩
  exact ⟨⟨space, regions, mappings.trans placed.mappings,
    fun calm => (resident calm).trans (congrArg Pages.resident (calm _ _ moved)), first, still,
    Or.inr ⟨second, _, prints, wanted, rises⟩⟩, first, second, prints⟩

/-- The demo of `new` that has been granted its block. -/
theorem newArray_tail (moved : system.moves memory.pages first)
    (moved_on : system.moves first pages)
    (covers : ∀ page, Overlaps 4096 start (sizeBytes sizeMB).toNat page → page ∈ range)
    (gains : Memory.Gains ⟨pages, memory.regions, memory.mappings, memory.prints ++ [first]⟩
      (.commit false) start range granted) :
    Sure (windows system) halted (do
        ask (.writePages start (sizeBytes sizeMB))
        ask .printProcessMemoryInfo
        ask .waitForUser
        ask (.deleteArray start)) granted
      fun _ after => LeavesTwice system (Demo.privateWorkingSet.Expected (pagesOf sizeMB))
        memory after := by
  have still := system.keeps moved
  have placed := placed_commit gains
  have ready := placed.ready memory still (system.keeps moved_on)
    (fun calm => calm _ _ moved_on) rfl rfl
  obtain ⟨seen, loop⟩ := loopPages start sizeMB
  have inside := loop.inside covers
  rw [sure_bind]
  apply sure_writePages loop.walked
  · rw [placed.adds.committed]
    exact inside.trans Finset.subset_union_right
  · intro pages after moved_again stepped
    have touched := ready.touches inside moved_again stepped
    apply (touched.sure_tail (releases_deleteArray start)).mono
    rintro value last ⟨space, regions, mappings, resident, second, prints, rises⟩
    have some_block : pagesOf sizeMB ≤ range.card := by
      have many := Finset.card_le_card inside
      rwa [loop.card (sizeBytes_pages sizeMB)] at many
    refine ⟨⟨space, regions, mappings.trans placed.mappings,
      fun calm => (resident calm).trans (congrArg Pages.resident (calm _ _ moved)), first, still,
      Or.inr ⟨second, _, prints, ⟨range.card, some_block, ?_⟩, rises⟩⟩, first, second, prints⟩
    rw [loop.card (sizeBytes_pages sizeMB), Finset.sdiff_empty, Finset.inter_empty]
    rfl

/-- The demo of shared memory that has been granted its mapping and its view. -/
theorem mapViewOfFile_tail {between : Pages} {mapping : Nat}
    (moved : system.moves memory.pages first) (moved_on : system.moves first between)
    (moved_again : system.moves between pages) (fresh : mapping ∉ memory.mappings)
    (fills : Fills range start (sizeBytes sizeMB))
    (gains : Memory.Gains ⟨pages, memory.regions, insert mapping memory.mappings,
      memory.prints ++ [first]⟩ (.commit true) start range granted) :
    Sure (windows system) halted (do
        ask (.writePages start (sizeBytes sizeMB))
        ask .printProcessMemoryInfo
        ask .waitForUser
        ask (.unmapViewOfFile start)
        ask (.closeHandle mapping)) granted
      fun _ after => LeavesTwice system (Demo.sharedMemory.Expected (pagesOf sizeMB))
        memory after := by
  have still := system.keeps moved
  have placed := placed_share gains
  have ready := placed.ready memory still
    ((system.keeps moved_on).trans (system.keeps moved_again))
    (fun calm => (calm _ _ moved_again).trans (calm _ _ moved_on)) rfl rfl
  obtain ⟨seen, loop⟩ := loopPages start sizeMB
  have inside := loop.inside fun page => (fills.pages page).mpr
  rw [sure_bind]
  apply sure_writePages loop.walked
  · rw [placed.adds.committed]
    exact inside.trans Finset.subset_union_right
  · intro pages after moved_last stepped
    have touched := ready.touches inside moved_last stepped
    change Sure (windows system) halted ((do
        ask .printProcessMemoryInfo
        ask .waitForUser
        ask (.unmapViewOfFile start)) >>= fun _ => ask (.closeHandle mapping)) _ _
    rw [sure_bind]
    apply (touched.sure_tail (releases_unmapViewOfFile start)).mono
    rintro value now ⟨space, regions, mappings, resident, second, prints, rises⟩
    have opened : now.mappings = insert mapping memory.mappings :=
      mappings.trans placed.mappings
    apply sure_closeHandle (opened ▸ Finset.mem_insert_self mapping _)
    intro last moved_at_last
    refine ⟨⟨space.trans (system.keeps moved_at_last), regions, ?_, fun calm => ?_, first,
      still, Or.inr ⟨second, _, prints, ?_, rises⟩⟩, first, second, prints⟩
    · change now.mappings.erase mapping = memory.mappings
      rw [opened, Finset.erase_insert fresh]
    · rw [calm _ _ moved_at_last, resident calm, calm _ _ moved]
    · have every := loop.card (sizeBytes_pages sizeMB)
      rw [Finset.inter_eq_left.mpr inside, Finset.sdiff_self, every,
        fills.card (sizeBytes_pages sizeMB)]
      rfl

end Pieces

theorem virtualAllocDemo_sure {allocation : Allocation} {expected : Counts → Prop}
    (places : Placing allocation sizeMB expected) :
    Sure (windows system) halted (virtualAllocDemo allocation sizeMB) memory fun _ after =>
      Leaves system expected memory after := by
  unfold virtualAllocDemo
  rw [sure_bind]
  apply sure_print
  intro first moved
  have still := system.keeps moved
  rw [sure_bind]
  apply sure_virtualAlloc
  · intro pages moved_on
    exact ⟨still.trans (system.keeps moved_on), rfl, rfl,
      fun calm => congrArg Pages.resident ((calm _ _ moved_on).trans (calm _ _ moved)), first,
      still, Or.inl rfl⟩
  · intro pages start range granted moved_on fills gains
    exact (virtualAlloc_tail sizeMB places moved moved_on fills gains).mono fun _ _ twice => twice.1

/-- Only a `new` that is refused ends the process. -/
theorem demoPrivateWorkingSet_sure
    (cut : ∀ after, Kept system 1 1 memory after → halted after) :
    Sure (windows system) halted (demoPrivateWorkingSet sizeMB) memory fun _ after =>
      Leaves system (Demo.privateWorkingSet.Expected (pagesOf sizeMB)) memory after := by
  unfold demoPrivateWorkingSet
  rw [sure_bind]
  apply sure_print
  intro first moved
  have still := system.keeps moved
  rw [sure_bind]
  apply sure_newArray
  · intro pages moved_on
    exact cut _ ⟨still.trans (system.keeps moved_on), rfl, rfl,
      fun calm => congrArg Pages.resident ((calm _ _ moved_on).trans (calm _ _ moved)), [first],
      rfl, Nat.le_refl 1, Nat.le_refl 1⟩
  · intro pages start range granted moved_on covers gains
    exact (newArray_tail sizeMB moved moved_on covers gains).mono fun _ _ twice => twice.1

theorem demoSharedMemory_sure :
    Sure (windows system) halted (demoSharedMemory sizeMB) memory fun _ after =>
      Leaves system (Demo.sharedMemory.Expected (pagesOf sizeMB)) memory after := by
  unfold demoSharedMemory
  rw [sure_bind]
  apply sure_print
  intro first moved
  have still := system.keeps moved
  rw [sure_bind]
  apply sure_createFileMapping
  · intro pages moved_on
    exact ⟨still.trans (system.keeps moved_on), rfl, rfl,
      fun calm => congrArg Pages.resident ((calm _ _ moved_on).trans (calm _ _ moved)), first,
      still, Or.inl rfl⟩
  · intro pages mapping moved_on fresh
    have on := still.trans (system.keeps moved_on)
    change Sure (windows system) halted (ask (.mapViewOfFile mapping (sizeBytes sizeMB)) >>= _) _ _
    rw [sure_bind]
    apply sure_mapViewOfFile
    · intro later moved_again
      apply sure_closeHandle (Finset.mem_insert_self mapping _)
      intro last moved_last
      refine ⟨(on.trans (system.keeps moved_again)).trans (system.keeps moved_last), rfl,
        Finset.erase_insert fresh, fun calm => ?_, first, still, Or.inl rfl⟩
      exact congrArg Pages.resident ((calm _ _ moved_last).trans
        ((calm _ _ moved_again).trans ((calm _ _ moved_on).trans (calm _ _ moved))))
    · intro later start range granted moved_again fills gains
      exact (mapViewOfFile_tail sizeMB moved moved_on moved_again fresh fills gains).mono
        fun _ _ twice => twice.1

theorem Demo.sure (demo : Demo)
    (cut : demo = .privateWorkingSet → ∀ after, Kept system 1 1 memory after → halted after) :
    Sure (windows system) halted (demo.action sizeMB) memory fun _ after =>
      Leaves system (demo.Expected (pagesOf sizeMB)) memory after := by
  cases demo with
  | virtualAddressReserve => exact virtualAllocDemo_sure sizeMB memory (placing_reserve sizeMB)
  | committedMemory => exact virtualAllocDemo_sure sizeMB memory (placing_reserveCommit sizeMB)
  | privateWorkingSet => exact demoPrivateWorkingSet_sure sizeMB memory (cut rfl)
  | sharedMemory => exact demoSharedMemory_sure sizeMB memory

section Granted
variable {memory} {start : Nat} {range : Finset Nat}

theorem virtualAllocDemo_can {allocation : Allocation} {expected : Counts → Prop}
    (places : Placing allocation sizeMB expected)
    (room : Room memory (sizeBytes sizeMB) start range)
    (able : ∃ after, Memory.Gains { memory with prints := memory.prints ++ [memory.pages] }
      allocation.action start range after) :
    Can (windows system) (virtualAllocDemo allocation sizeMB) memory fun _ after =>
      LeavesTwice system expected memory after := by
  obtain ⟨granted, gains⟩ := able
  have idle := system.idle memory.pages
  unfold virtualAllocDemo
  rw [can_bind]
  apply can_print
  rw [can_bind]
  refine ⟨some start, granted, ⟨_, idle, range, room.fills, gains⟩, ?_⟩
  exact (virtualAlloc_tail sizeMB places idle idle room.fills gains).can

theorem demoPrivateWorkingSet_can (room : Room memory (sizeBytes sizeMB) start range) :
    Can (windows system) (demoPrivateWorkingSet sizeMB) memory fun _ after =>
      LeavesTwice system (Demo.privateWorkingSet.Expected (pagesOf sizeMB)) memory after := by
  have later : Room { memory with prints := memory.prints ++ [memory.pages] } (sizeBytes sizeMB)
      start range := ⟨room.fills, room.user, room.unknown, room.free⟩
  obtain ⟨granted, gains⟩ := later.commits false
  have idle := system.idle memory.pages
  have covers : ∀ page, Overlaps 4096 start (sizeBytes sizeMB).toNat page → page ∈ range :=
    fun page => (room.fills.pages page).mpr
  unfold demoPrivateWorkingSet
  rw [can_bind]
  apply can_print
  rw [can_bind]
  refine ⟨some start, granted, ⟨_, idle, range, covers, gains⟩, ?_⟩
  exact (newArray_tail sizeMB idle idle covers gains).can

/-- The low part of the size goes to `CreateFileMapping`. -/
theorem demoSharedMemory_can (room : Room memory (sizeBytes sizeMB) start range)
    (sized : (sizeBytes sizeMB).toUInt32 ≠ 0) :
    Can (windows system) (demoSharedMemory sizeMB) memory fun _ after =>
      LeavesTwice system (Demo.sharedMemory.Expected (pagesOf sizeMB)) memory after := by
  obtain ⟨mapping, fresh⟩ := Infinite.exists_notMem_finset memory.mappings
  have later : Room ⟨memory.pages, memory.regions, insert mapping memory.mappings,
      memory.prints ++ [memory.pages]⟩ (sizeBytes sizeMB) start range :=
    ⟨room.fills, room.user, room.unknown, room.free⟩
  obtain ⟨granted, gains⟩ := later.commits true
  have idle := system.idle memory.pages
  unfold demoSharedMemory
  rw [can_bind]
  apply can_print
  rw [can_bind]
  refine ⟨some mapping, _, ⟨_, idle, sized, fresh, rfl⟩, ?_⟩
  change Can (windows system) (ask (.mapViewOfFile mapping (sizeBytes sizeMB)) >>= _) _ _
  rw [can_bind]
  refine ⟨some start, granted, ⟨_, idle, Finset.mem_insert_self mapping _, range, room.fills,
    gains⟩, ?_⟩
  exact (mapViewOfFile_tail sizeMB idle idle idle fresh room.fills gains).can

theorem Demo.can (demo : Demo) (room : Room memory (sizeBytes sizeMB) start range)
    (sized : demo = .sharedMemory → (sizeBytes sizeMB).toUInt32 ≠ 0) :
    Can (windows system) (demo.action sizeMB) memory fun _ after =>
      LeavesTwice system (demo.Expected (pagesOf sizeMB)) memory after := by
  have later : Room { memory with prints := memory.prints ++ [memory.pages] } (sizeBytes sizeMB)
      start range := ⟨room.fills, room.user, room.unknown, room.free⟩
  cases demo with
  | virtualAddressReserve =>
    exact virtualAllocDemo_can sizeMB (placing_reserve sizeMB) room later.reserves
  | committedMemory =>
    exact virtualAllocDemo_can sizeMB (placing_reserveCommit sizeMB) room (later.commits false)
  | privateWorkingSet => exact demoPrivateWorkingSet_can sizeMB room
  | sharedMemory => exact demoSharedMemory_can sizeMB room (sized rfl)

end Granted

end Demos

/-- A print of the process when its pages are these: Windows charges the private committed
pages, lists the resident ones, and the buffer of the second query is private. -/
def PrintedAt (pages : Pages) (metrics : Metrics) : Prop :=
  ∃ env counters blocks, env.getProcessMemoryInfo = .ok counters ∧
    Measures counters pages ∧ counters.pagefileUsage = counters.privateUsage ∧
    env.secondSet = .entries blocks ∧
    blocks.countP Block.shared = (pages.resident ∩ pages.shared).card ∧
    printProcessMemoryInfo env = .detailed metrics

example : PrintedAt Pages.empty (detailedMetrics ⟨0, 0, 0⟩ [⟨false, 1⟩, ⟨false, 1⟩]) :=
  ⟨⟨.ok ⟨0, 0, 0⟩, .entries [⟨false, 1⟩, ⟨false, 1⟩], fun _ => some 0x10000,
    .entries [⟨false, 1⟩, ⟨false, 1⟩]⟩, _, _, rfl, ⟨rfl, rfl⟩, rfl, rfl, rfl, rfl⟩

/-- The bytes of so many pages, as they are printed. -/
def bytes (pages : Nat) : UInt64 :=
  UInt64.ofNat (4096 * pages)

theorem bytes_add (first second : Nat) : bytes (first + second) = bytes first + bytes second := by
  rw [bytes, Nat.mul_add, UInt64.ofNat_add]
  rfl

theorem eq_bytes {word : UInt64} {pages : Nat} (exact : word.toNat = 4096 * pages) :
    word = bytes pages := by
  rw [bytes, ← exact, UInt64.ofNat_toNat]

/-- The figures of a print, but for the two that count the buffer of the query. -/
structure Figures (pages : Pages) (metrics : Metrics) : Prop where
  virtualAddress :
    metrics.virtualAddress = bytes (pages.privateCommitted.card + pages.resident.card)
  committed : metrics.committed = bytes pages.privateCommitted.card
  privateBytes : metrics.privateBytes = bytes pages.privateCommitted.card
  totalWorkingSet : metrics.totalWorkingSet = bytes pages.resident.card
  sharedWorkingSet : metrics.sharedWorkingSet = bytes (pages.resident ∩ pages.shared).card

theorem figures_of_printed {pages : Pages} {metrics : Metrics}
    (printed : PrintedAt pages metrics) : Figures pages metrics := by
  obtain ⟨env, counters, blocks, read, measures, charge, listed, shared, run⟩ := printed
  obtain ⟨rfl, few⟩ := detailed_of_answers read listed run
  have sharedSize := (detailedMetrics_toNat counters blocks few).2
  have privately := eq_bytes measures.privateUsage
  have resident := eq_bytes measures.workingSetSize
  constructor
  · rw [bytes_add, ← privately, ← resident]
    rfl
  · exact charge.trans privately
  · exact privately
  · exact resident
  · apply eq_bytes
    rw [sharedSize, shared, Nat.mul_comm]

/-- How the figures move from one print to another. -/
structure FiguresRise (system : System) (rise : Counts) (before after : Metrics) : Prop where
  committed : after.committed = before.committed + bytes rise.privateCommitted
  privateBytes : after.privateBytes = before.privateBytes + bytes rise.privateCommitted
  virtualAddress : system.Calm → after.virtualAddress =
    before.virtualAddress + bytes (rise.privateCommitted + rise.resident)
  totalWorkingSet : system.Calm →
    after.totalWorkingSet = before.totalWorkingSet + bytes rise.resident
  sharedWorkingSet : system.Calm →
    after.sharedWorkingSet = before.sharedWorkingSet + bytes rise.residentShared

theorem Rises.figures {system : System} {rise : Counts} {first second : Pages}
    (rises : Rises system rise first second) {before after : Metrics}
    (printed : PrintedAt first before) (again : PrintedAt second after) :
    FiguresRise system rise before after := by
  have old := figures_of_printed printed
  have new := figures_of_printed again
  constructor
  · rw [new.committed, old.committed, rises.privateCommitted, bytes_add]
  · rw [new.privateBytes, old.privateBytes, rises.privateCommitted, bytes_add]
  · intro calm
    rw [new.virtualAddress, old.virtualAddress, rises.privateCommitted, rises.resident calm,
      ← bytes_add]
    congr 1
    omega
  · intro calm
    rw [new.totalWorkingSet, old.totalWorkingSet, rises.resident calm, bytes_add]
  · intro calm
    rw [new.sharedWorkingSet, old.sharedWorkingSet, rises.residentShared calm, bytes_add]

section Mains
variable {system : System} {memory middle after : Memory}

theorem Leaves.kept {expected : Counts → Prop} (leaves : Leaves system expected memory after) :
    Kept system 1 2 memory after := by
  refine ⟨leaves.space, leaves.regions, leaves.mappings, leaves.resident, ?_⟩
  obtain ⟨first, -, once | ⟨second, rise, prints, -, -⟩⟩ := leaves.prints
  · exact ⟨[first], once, Nat.le_refl 1, Nat.le_succ 1⟩
  · exact ⟨[first, second], prints, Nat.le_succ 1, Nat.le_refl 2⟩

theorem Kept.trans {few many more most : Nat} (first : Kept system few many memory middle)
    (second : Kept system more most middle after) :
    Kept system (few + more) (many + most) memory after := by
  obtain ⟨early, known, least, largest⟩ := first.prints
  obtain ⟨late, known', least', largest'⟩ := second.prints
  refine ⟨first.space.trans second.space, second.regions.trans first.regions,
    second.mappings.trans first.mappings,
    fun calm => (second.resident calm).trans (first.resident calm), early ++ late, ?_, ?_, ?_⟩
  · rw [known', known, List.append_assoc]
  · rw [List.length_append]
    exact Nat.add_le_add least least'
  · rw [List.length_append]
    exact Nat.add_le_add largest largest'

/-- Another demo behind what has been kept so far. -/
theorem Kept.next_demo {few many : Nat} (kept : Kept system few many memory middle) (demo : Demo)
    (sizeMB : UInt64) {halted : Memory → Prop}
    (cut : demo = .privateWorkingSet →
      ∀ after, Kept system (few + 1) (many + 1) memory after → halted after)
    {next : Unit → Action} {post : Unit → Memory → Prop}
    (holds : ∀ after, Kept system (few + 1) (many + 2) memory after →
      Sure (windows system) halted (next ()) after post) :
    Sure (windows system) halted (demo.action sizeMB >>= next) middle post := by
  rw [sure_bind]
  apply (demo.sure sizeMB middle fun isNew after once => cut isNew after (kept.trans once)).mono
  intro value after leaves
  exact holds after (kept.trans leaves.kept)

/-- The demo can return, that of `new` if there is room. -/
theorem Kept.can_demo {few many : Nat} (kept : Kept system few many memory middle) (demo : Demo)
    (sizeMB : UInt64)
    (room : demo = .privateWorkingSet →
      ∃ start range, Room memory (sizeBytes sizeMB) start range)
    {next : Unit → Action} {post : Unit → Memory → Prop}
    (holds : ∀ after, Kept system (few + 1) (many + 2) memory after →
      Can (windows system) (next ()) after post) :
    Can (windows system) (demo.action sizeMB >>= next) middle post := by
  have returns : Can (windows system) (demo.action sizeMB) middle fun _ after =>
      Leaves system (demo.Expected (pagesOf sizeMB)) middle after := by
    by_cases isNew : demo = .privateWorkingSet
    · obtain ⟨start, range, fills, user, unknown, free⟩ := room isNew
      have still : Room middle (sizeBytes sizeMB) start range :=
        ⟨fills, user, kept.regions ▸ unknown, kept.space.inUse ▸ free⟩
      exact (demo.can sizeMB still fun other => (nomatch isNew.symm.trans other)).mono
        fun _ _ twice => twice.1
    · exact (demo.sure sizeMB middle fun same => absurd same isNew).can
  rw [can_bind]
  apply returns.mono
  intro value after leaves
  exact holds after (kept.trans leaves.kept)

theorem rises_nothing {first last : Pages} (space : SameSpace first last)
    (resident : system.Calm → last.resident = first.resident) :
    Rises system ⟨0, 0, 0, 0⟩ first last where
  inUse := by rw [space.inUse, Nat.add_zero]
  privateCommitted := by
    rw [Pages.privateCommitted, space.committed, space.shared, Nat.add_zero]
    rfl
  resident calm := by rw [resident calm, Nat.add_zero]
  residentShared calm := by rw [resident calm, space.shared, Nat.add_zero]

theorem kept_start (memory : Memory) : Kept system 0 0 memory memory :=
  ⟨⟨rfl, rfl, rfl⟩, rfl, rfl, fun _ => rfl, [], by simp, Nat.le_refl 0, Nat.le_refl 0⟩

/-- A print, and then the Enter key. -/
theorem kept_printed {first pages : Pages} (moved : system.moves memory.pages first)
    (moved_on : system.moves first pages) :
    Kept system 1 1 memory
      ⟨pages, memory.regions, memory.mappings, memory.prints ++ [first]⟩ where
  space := (system.keeps moved).trans (system.keeps moved_on)
  regions := rfl
  mappings := rfl
  resident calm := congrArg Pages.resident ((calm _ _ moved_on).trans (calm _ _ moved))
  prints := ⟨[first], rfl, Nat.le_refl 1, Nat.le_refl 1⟩

/-- Only `new` needs room. -/
theorem main_can (room : ∃ start range, Room memory (sizeBytes 100) start range) :
    Can (windows system) main memory fun _ _ => True := by
  unfold main
  rw [can_bind]
  apply can_print
  rw [can_bind]
  apply can_wait
  obtain ⟨start, range, fills, user, unknown, free⟩ := room
  apply (kept_start _).can_demo .virtualAddressReserve 100 nofun
  intro reserved kept
  apply kept.can_demo .committedMemory 100 nofun
  intro committed kept
  apply kept.can_demo .privateWorkingSet 100 fun _ => ⟨start, range, fills, user, unknown, free⟩
  intro written kept
  apply kept.can_demo .sharedMemory 100 nofun
  intro shared kept
  rw [can_bind]
  apply can_print
  exact can_wait trivial

end Mains

end MemoryDemo.Windows.MetricsDemos
