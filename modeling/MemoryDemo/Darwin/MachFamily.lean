import MemoryDemo.Darwin.DemoFamilies
import MemoryDemo.Library.Processes

/-! The two processes of `macos/process/mach_shared_memory_demo.cpp` with the calls that they make:
what each of them has given back when it ends, and how they wait for one another. Prints, sleeps
and reading the Enter key are left out. -/

namespace MemoryDemo.Darwin.MachFamily
open Library.CallTree Library.Ledger Library.Processes Relation
open Calls (Fork)
open DemoFamilies (outcome)
open FootprintDemos (sizeBytes)

/-- What a process has to give back. -/
inductive Resource where
  | range (start : Nat) (size : UInt64)
  | port (name : Nat)
  | child (pid : Nat)
  deriving DecidableEq, Repr

/-- An access names the range that it touches. -/
inductive Call where
  | vmAllocate (size : UInt64)
  | access (start : Nat) (size : UInt64)
  | machMakeMemoryEntry64 (start : Nat) (size : UInt64)
  | vmMap (memoryPort : Nat) (size : UInt64)
  | vmDeallocate (start : Nat) (size : UInt64)
  | machPortDeallocate (memoryPort : Nat)
  | fork
  | waitpid (pid : Nat)
  deriving DecidableEq, Repr

/-- The answer to a call; `none` is its failure. The status of a child is not looked at. -/
@[reducible] def Answer : Call → Type
  | .vmAllocate _ | .machMakeMemoryEntry64 _ _ | .vmMap _ _ => Option Nat
  | .fork => Fork
  | .access _ _ | .vmDeallocate _ _ | .machPortDeallocate _ | .waitpid _ => Unit

abbrev Action (α : Type) : Type := Program Call Answer α

/-- The events of an exchange. A memory entry keeps the pages of a region, and a mapping those of
an entry. -/
@[simp]
def effect : Exchange Call Answer → List (Event Resource)
  | ⟨.vmAllocate size, some start⟩ => [.acquire (.range start size)]
  | ⟨.access start size, _⟩ => [.use (.range start size)]
  | ⟨.machMakeMemoryEntry64 start size, some port⟩ =>
    [.use (.range start size), .acquire (.port port)]
  | ⟨.machMakeMemoryEntry64 start size, none⟩ => [.use (.range start size)]
  | ⟨.vmMap memoryPort size, some start⟩ => [.use (.port memoryPort), .acquire (.range start size)]
  | ⟨.vmDeallocate start size, _⟩ => [.release (.range start size)]
  | ⟨.machPortDeallocate memoryPort, _⟩ => [.release (.port memoryPort)]
  | ⟨.fork, .parent pid⟩ => [.acquire (.child pid)]
  | ⟨.waitpid pid, _⟩ => [.release (.child pid)]
  | ⟨.vmAllocate _, none⟩ | ⟨.vmMap _ _, none⟩ | ⟨.fork, .failed⟩ | ⟨.fork, .child⟩ => []

abbrev ask (request : Call) : Action (Answer request) :=
  Program.ask request

/-- The region and the port of its memory entry. A failed call leaves the size as it is. -/
def createMachSharedMemory (size : UInt64) : Action (Option (Nat × Nat)) := do
  match ← ask (.vmAllocate size) with
  | none => return none
  | some memory => do
    ask (.access memory size)
    match ← ask (.machMakeMemoryEntry64 memory size) with
    | none => do
      ask (.vmDeallocate memory size)
      return none
    | some memoryPort => return some (memory, memoryPort)

def mapMachSharedMemory (memoryPort : Nat) (size : UInt64) : Action (Option Nat) :=
  ask (.vmMap memoryPort size)

/-- How a process leaves the demo. -/
inductive Ending where
  | returned
  | exited (status : Nat)
  deriving DecidableEq, Repr

def childProcess (memoryPort : Nat) (size : UInt64) : Action Ending := do
  match ← mapMachSharedMemory memoryPort size with
  | none => return .exited 1
  | some childMemory => do
    ask (.access childMemory size)
    ask (.vmDeallocate childMemory size)
    ask (.machPortDeallocate memoryPort)
    return .exited 0

/-- What the parent does about a fork that failed, or once its child has ended. -/
def cleanUp (memory memoryPort : Nat) (size : UInt64) : Action Ending := do
  ask (.machPortDeallocate memoryPort)
  ask (.vmDeallocate memory size)
  return .returned

def demoMachSharedMemory (sizeMb : UInt64) : Action Ending := do
  match ← createMachSharedMemory (sizeBytes sizeMb) with
  | none => return .returned
  | some (memory, memoryPort) => do
    match ← ask .fork with
    | .failed => cleanUp memory memoryPort (sizeBytes sizeMb)
    | .child => childProcess memoryPort (sizeBytes sizeMb)
    | .parent pid => do
      ask (.waitpid pid)
      ask (.access memory (sizeBytes sizeMb))
      cleanUp memory memoryPort (sizeBytes sizeMb)

abbrev Log : Type := List (Exchange Call Answer)

/-- The calls by which a process gets its region, the port of its entry, and a mapping of that. -/
inductive Gets where
  | region
  | entry
  | mapping
  deriving DecidableEq, Repr

def Gets.by : Gets → Call → Bool
  | .region, .vmAllocate _ => true
  | .entry, .machMakeMemoryEntry64 _ _ => true
  | .mapping, .vmMap _ _ => true
  | _, _ => false

/-- The calls of one kind among those of a process. -/
def Gets.among (gets : Gets) (log : Log) : Log :=
  log.filter fun exchange => gets.by exchange.1

theorem Gets.among_append (gets : Gets) (first second : Log) :
    gets.among (first ++ second) = gets.among first ++ gets.among second := by
  unfold Gets.among
  rw [List.filter_append]

/-- Where a child comes from: it has the region and the port of the process that forked. -/
structure ForkedWith (size : UInt64) (log : Log) (memory memoryPort : Nat) : Prop where
  child : ⟨.fork, .child⟩ ∈ log
  region : Gets.region.among log = [⟨.vmAllocate size, some memory⟩]
  entry : Gets.entry.among log = [⟨.machMakeMemoryEntry64 memory size, some memoryPort⟩]

/-- What a process with these calls holds when it leaves the demo: the parent nothing, and a child
what it came with; one whose mapping was granted has given it back, and the port too. -/
inductive Leaves (size : UInt64) (log : Log) : Ending → Multiset Resource → Prop where
  | returned (parent : ⟨.fork, .child⟩ ∉ log) (unmapped : Gets.mapping.among log = []) :
    Leaves size log .returned 0
  | mapped {memory memoryPort childMemory : Nat} (forked : ForkedWith size log memory memoryPort)
      (mapping : Gets.mapping.among log = [⟨.vmMap memoryPort size, some childMemory⟩]) :
    Leaves size log (.exited 0) {.range memory size}
  | refused {memory memoryPort : Nat} (forked : ForkedWith size log memory memoryPort)
      (mapping : Gets.mapping.among log = [⟨.vmMap memoryPort size, none⟩]) :
    Leaves size log (.exited 1) (.port memoryPort ::ₘ {.range memory size})

section Accounts

/-- What is held, and the calls that led to it. -/
abbrev Account : Type := Multiset Resource × Log

/-- Runs of the action never touch what is not held, and end with the condition. -/
abbrev Keeps {α : Type} (action : Action α) (account : Account) (post : α → Account → Prop) : Prop :=
  Safe (recording (holding effect)) action account post

variable {held : Multiset Resource} {log : Log} {size : UInt64}

theorem keeps_bind {α β : Type} (action : Action α) (next : α → Action β) (account : Account)
    (post : β → Account → Prop) :
    Keeps (action >>= next) account post ↔
      Keeps action account fun value after => Keeps (next value) after post :=
  safe_bind _ action next account post

theorem keeps_vmAllocate (post : Option Nat → Account → Prop) :
    Keeps (ask (.vmAllocate size)) (held, log) post ↔
      post none (held, log ++ [⟨.vmAllocate size, none⟩]) ∧
        ∀ start, post (some start)
          (.range start size ::ₘ held, log ++ [⟨.vmAllocate size, some start⟩]) :=
  safe_ask_answer (recording (holding effect)) (.vmAllocate size) (fun _ => Option.forall) rfl
    (fun _ => rfl) post

theorem keeps_machMakeMemoryEntry64 {start : Nat} (post : Option Nat → Account → Prop)
    (member : .range start size ∈ held) :
    Keeps (ask (.machMakeMemoryEntry64 start size)) (held, log) post ↔
      post none (held, log ++ [⟨.machMakeMemoryEntry64 start size, none⟩]) ∧
        ∀ port, post (some port)
          (.port port ::ₘ held, log ++ [⟨.machMakeMemoryEntry64 start size, some port⟩]) :=
  safe_ask_answer (recording (holding effect)) (.machMakeMemoryEntry64 start size)
    (fun _ => Option.forall) (by simp [recording, holding, replay, record, member])
    (fun _ => by simp [recording, holding, replay, record, member]) post

theorem keeps_vmMap {memoryPort : Nat} (post : Option Nat → Account → Prop)
    (member : .port memoryPort ∈ held) :
    Keeps (ask (.vmMap memoryPort size)) (held, log) post ↔
      post none (held, log ++ [⟨.vmMap memoryPort size, none⟩]) ∧
        ∀ start, post (some start)
          (.range start size ::ₘ held, log ++ [⟨.vmMap memoryPort size, some start⟩]) :=
  safe_ask_answer (recording (holding effect)) (.vmMap memoryPort size) (fun _ => Option.forall) rfl
    (fun _ => by simp [recording, holding, replay, record, member]) post

theorem keeps_fork (post : Fork → Account → Prop) :
    Keeps (ask .fork) (held, log) post ↔
      post .failed (held, log ++ [⟨.fork, .failed⟩]) ∧
        post .child (held, log ++ [⟨.fork, .child⟩]) ∧
        ∀ pid, post (.parent pid) (.child pid ::ₘ held, log ++ [⟨.fork, .parent pid⟩]) := by
  simp [safe_ask, Calls.forall_fork, recording, holding, replay, record]

theorem keeps_access {start : Nat} (post : Unit → Account → Prop)
    (member : .range start size ∈ held) :
    Keeps (ask (.access start size)) (held, log) post ↔
      post () (held, log ++ [⟨.access start size, ()⟩]) :=
  (safe_ask_moves (recording (holding effect)) (.access start size)
    (fun _ => by simp [recording, holding, replay, record, member]) post).trans Unique.forall_iff

theorem keeps_vmDeallocate (start : Nat) (post : Unit → Account → Prop) :
    Keeps (ask (.vmDeallocate start size)) (.range start size ::ₘ held, log) post ↔
      post () (held, log ++ [⟨.vmDeallocate start size, ()⟩]) :=
  (safe_ask_moves (recording (holding effect)) (.vmDeallocate start size)
    (fun _ => by simp [recording, holding, replay, record]) post).trans Unique.forall_iff

theorem keeps_machPortDeallocate (memoryPort : Nat) (post : Unit → Account → Prop) :
    Keeps (ask (.machPortDeallocate memoryPort)) (.port memoryPort ::ₘ held, log) post ↔
      post () (held, log ++ [⟨.machPortDeallocate memoryPort, ()⟩]) :=
  (safe_ask_moves (recording (holding effect)) (.machPortDeallocate memoryPort)
    (fun _ => by simp [recording, holding, replay, record]) post).trans Unique.forall_iff

theorem keeps_waitpid (pid : Nat) (post : Unit → Account → Prop) :
    Keeps (ask (.waitpid pid)) (.child pid ::ₘ held, log) post ↔
      post () (held, log ++ [⟨.waitpid pid, ()⟩]) :=
  (safe_ask_moves (recording (holding effect)) (.waitpid pid)
    (fun _ => by simp [recording, holding, replay, record]) post).trans Unique.forall_iff

/-- The process does not come from a fork, and has not mapped an entry. -/
structure Unforked (log : Log) : Prop where
  parent : ⟨.fork, .child⟩ ∉ log
  unmapped : Gets.mapping.among log = []

/-- A process with a region and the port of its entry. -/
structure Created (size : UInt64) (log : Log) (memory memoryPort : Nat) : Prop
    extends Unforked log where
  region : Gets.region.among log = [⟨.vmAllocate size, some memory⟩]
  entry : Gets.entry.among log = [⟨.machMakeMemoryEntry64 memory size, some memoryPort⟩]

theorem createMachSharedMemory_keeps :
    Keeps (createMachSharedMemory size) (0, []) fun created account =>
      match created with
      | none => account.1 = 0 ∧ Unforked account.2
      | some (memory, memoryPort) =>
        account.1 = .port memoryPort ::ₘ {.range memory size} ∧
          Created size account.2 memory memoryPort := by
  unfold createMachSharedMemory
  rw [keeps_bind, keeps_vmAllocate]
  refine ⟨⟨rfl, by simp, rfl⟩, fun memory => ?_⟩
  rw [keeps_bind, keeps_access _ (Multiset.mem_cons_self _ _), keeps_bind,
    keeps_machMakeMemoryEntry64 _ (Multiset.mem_cons_self _ _)]
  refine ⟨?_, fun memoryPort => ⟨rfl, ⟨by simp, rfl⟩, rfl, rfl⟩⟩
  rw [keeps_bind, keeps_vmDeallocate]
  exact ⟨rfl, by simp, rfl⟩

theorem cleanUp_keeps (memory memoryPort : Nat) (unforked : Unforked log) :
    Keeps (cleanUp memory memoryPort size) (.port memoryPort ::ₘ {.range memory size}, log)
      fun ending account => Leaves size account.2 ending account.1 := by
  unfold cleanUp
  rw [keeps_bind, keeps_machPortDeallocate, keeps_bind, ← Multiset.cons_zero, keeps_vmDeallocate]
  apply Leaves.returned
  · simp [unforked.parent]
  · simp only [Gets.among_append, unforked.unmapped]
    rfl

/-- The mapping of the child goes before the port, and what it came with goes with the process. -/
theorem childProcess_keeps {memory memoryPort : Nat} (created : Created size log memory memoryPort) :
    Keeps (childProcess memoryPort size)
      (.port memoryPort ::ₘ {.range memory size}, log ++ [⟨.fork, .child⟩])
      fun ending account => Leaves size account.2 ending account.1 := by
  have forked (exchanges : Log) (none : Gets.region.among exchanges = [])
      (nothing : Gets.entry.among exchanges = []) :
      ForkedWith size (log ++ [⟨.fork, .child⟩] ++ exchanges) memory memoryPort := by
    refine ⟨by simp, ?_, ?_⟩
    · simp only [Gets.among_append, created.region, none]
      rfl
    · simp only [Gets.among_append, created.entry, nothing]
      rfl
  have mapping (exchanges : Log) :
      Gets.mapping.among (log ++ [⟨.fork, .child⟩] ++ exchanges) = Gets.mapping.among exchanges := by
    simp only [Gets.among_append, created.unmapped]
    rfl
  unfold childProcess mapMachSharedMemory
  rw [keeps_bind, keeps_vmMap _ (Multiset.mem_cons_self _ _)]
  constructor
  · exact .refused (forked _ rfl rfl) (mapping _)
  intro childMemory
  rw [keeps_bind, keeps_access _ (Multiset.mem_cons_self _ _), keeps_bind, keeps_vmDeallocate,
    keeps_bind, keeps_machPortDeallocate]
  rw [List.append_assoc _ [_] [_], List.append_assoc _ [_], List.append_assoc _ [_]]
  exact .mapped (forked _ rfl rfl) (mapping _)

theorem demoMachSharedMemory_keeps (sizeMb : UInt64) :
    Keeps (demoMachSharedMemory sizeMb) (0, [])
      fun ending account => Leaves (sizeBytes sizeMb) account.2 ending account.1 := by
  unfold demoMachSharedMemory
  rw [keeps_bind]
  apply createMachSharedMemory_keeps.mono
  rintro created ⟨held, log⟩ made
  cases created with
  | none =>
    obtain ⟨rfl, unforked⟩ := made
    exact .returned unforked.parent unforked.unmapped
  | some created =>
    obtain ⟨memory, memoryPort⟩ := created
    obtain ⟨rfl, created⟩ := made
    have still (exchanges : Log) (others : Unforked exchanges) :
        Unforked (log ++ exchanges) := by
      refine ⟨?_, ?_⟩
      · simp [created.parent, others.parent]
      · rw [Gets.among_append, created.unmapped, others.unmapped]
        rfl
    rw [keeps_bind, keeps_fork]
    refine ⟨cleanUp_keeps memory memoryPort (still _ ⟨by simp, rfl⟩), childProcess_keeps created,
      fun pid => ?_⟩
    have there : Resource.range memory (sizeBytes sizeMb) ∈
        (.port memoryPort ::ₘ {.range memory (sizeBytes sizeMb)} : Multiset Resource) := by simp
    rw [keeps_bind, keeps_waitpid, keeps_bind, keeps_access _ there]
    rw [List.append_assoc, List.append_assoc]
    exact cleanUp_keeps memory memoryPort (still _ ⟨by simp, rfl⟩)

end Accounts

theorem demoMachSharedMemory_returns (sizeMb : UInt64) : Returns (demoMachSharedMemory sizeMb) := by
  have cleaned (memory memoryPort : Nat) :
      Returns (cleanUp memory memoryPort (sizeBytes sizeMb)) := fun _ _ => trivial
  apply Returns.bind
  · intro memory
    cases memory with
    | none => trivial
    | some memory =>
      intro _ memoryPort
      cases memoryPort with
      | none => exact fun _ => trivial
      | some memoryPort => trivial
  · intro created
    cases created with
    | none => trivial
    | some created =>
      obtain ⟨memory, memoryPort⟩ := created
      intro fork
      cases fork with
      | failed => exact cleaned memory memoryPort
      | child =>
        intro childMemory
        cases childMemory with
        | none => trivial
        | some childMemory => exact fun _ _ _ => trivial
      | parent pid => exact fun _ _ => cleaned memory memoryPort

/-- The exchanges with which a process makes the region and the port of its entry. -/
def creating (size : UInt64) (memory memoryPort : Nat) : Log :=
  [⟨.vmAllocate size, some memory⟩, ⟨.access memory size, ()⟩,
    ⟨.machMakeMemoryEntry64 memory size, some memoryPort⟩]

theorem demoMachSharedMemory_forks (sizeMb : UInt64) (environment : Environment Call Answer)
    {memory memoryPort : Nat}
    (allocated : environment [] (.vmAllocate (sizeBytes sizeMb)) = some memory)
    (entered : environment [⟨.vmAllocate (sizeBytes sizeMb), some memory⟩,
      ⟨.access memory (sizeBytes sizeMb), ()⟩] (.machMakeMemoryEntry64 memory (sizeBytes sizeMb)) =
        some memoryPort) :
    ∃ forked rest, (run environment [] (demoMachSharedMemory sizeMb)).log =
      creating (sizeBytes sizeMb) memory memoryPort ++ ⟨.fork, forked⟩ :: rest := by
  have touched : environment [⟨.vmAllocate (sizeBytes sizeMb), some memory⟩]
      (.access memory (sizeBytes sizeMb)) = () := rfl
  unfold demoMachSharedMemory createMachSharedMemory
  rw [Program.bind_assoc, run_ask environment [] _ _ allocated, List.nil_append,
    Program.bind_assoc, run_ask environment _ _ _ touched, List.singleton_append,
    Program.bind_assoc, run_ask environment _ _ _ entered]
  exact ⟨_, _, rfl⟩

/-- However the calls of a process go: it leaves the demo, and it has given back what it had to. It
forks wherever it has got its region and the entry. -/
theorem demoMachSharedMemory_leaves (sizeMb : UInt64) (environment : Environment Call Answer) :
    ∃ ending held, (run environment [] (demoMachSharedMemory sizeMb)).result = some ending ∧
      replay 0 ((run environment [] (demoMachSharedMemory sizeMb)).log.flatMap effect) =
        some held ∧
      Leaves (sizeBytes sizeMb) (run environment [] (demoMachSharedMemory sizeMb)).log ending
        held ∧
      (ending = .returned →
        Accounted ((run environment [] (demoMachSharedMemory sizeMb)).log.flatMap effect)) ∧
      ∀ memory memoryPort, environment [] (.vmAllocate (sizeBytes sizeMb)) = some memory →
        environment [⟨.vmAllocate (sizeBytes sizeMb), some memory⟩,
          ⟨.access memory (sizeBytes sizeMb), ()⟩]
            (.machMakeMemoryEntry64 memory (sizeBytes sizeMb)) = some memoryPort →
          ∃ forked rest, (run environment [] (demoMachSharedMemory sizeMb)).log =
            creating (sizeBytes sizeMb) memory memoryPort ++ ⟨.fork, forked⟩ :: rest := by
  obtain ⟨ending, returned⟩ := (demoMachSharedMemory_returns sizeMb).run environment []
  obtain ⟨held, followed, holds⟩ := (demoMachSharedMemory_keeps sizeMb).run_recording environment []
  rw [follow_holding] at followed
  have leaves := holds ending returned
  refine ⟨ending, held, returned, followed, leaves, ?_, fun memory memoryPort allocated entered =>
    demoMachSharedMemory_forks sizeMb environment allocated entered⟩
  rintro rfl
  generalize (run environment [] (demoMachSharedMemory sizeMb)).log = log at followed leaves ⊢
  cases leaves
  exact (accounted_iff_replay _).mpr followed

section Family

def kind : (request : Call) → Kind (Answer request)
  | .fork => .fork outcome
  | .waitpid pid => .wait pid
  | _ => .plain

/-- Each process has its own memory in this view, so there is nothing that all of them see. -/
def system : System Call Answer Unit where
  kind := kind
  record store _ := store
  answers
    | .vmAllocate _ | .machMakeMemoryEntry64 _ _ | .vmMap _ _ => ⟨none⟩
    | .fork => ⟨.failed⟩
    | .access _ _ | .vmDeallocate _ _ | .machPortDeallocate _ | .waitpid _ => ⟨()⟩

def forking : Forking system where
  fork := .fork
  outcome := outcome
  wait := .waitpid
  forks := rfl
  waits _ := rfl
  only := by
    intro request pid waits
    cases request <;> cases waits
    rfl

/-- The calls of the child. -/
def childCall : Call → Bool
  | .vmMap _ _ | .access _ _ | .vmDeallocate _ _ | .machPortDeallocate _ => true
  | .vmAllocate _ | .machMakeMemoryEntry64 _ _ | .fork | .waitpid _ => false

/-- One child at a time. -/
def discipline : Discipline system where
  limit := 1
  needs _ _ := true
  beside := childCall
  leaves _ _ _ _ := rfl

/-- An `exit` ends the process. -/
def leave : Ending → Action Unit
  | .returned => return ()
  | .exited _ => .halt

def process (sizeMb : UInt64) : Action Unit :=
  demoMachSharedMemory sizeMb >>= leave

abbrev Joins {α : Type} (action : Action α) (now : Role × Unit)
    (post : α → Role × Unit → Prop) : Prop :=
  Safe (joining discipline) action now post

theorem joins_parent {request : Call} (plain : system.kind request = .plain)
    {post : Answer request → Role × Unit → Prop} (rest : ∀ answer, post answer (.parent 0, ())) :
    Joins (ask request) (.parent 0, ()) post :=
  (safe_plain discipline plain).mpr ⟨rfl, rfl, rest⟩

theorem joins_child {request : Call} (plain : system.kind request = .plain)
    (calls : childCall request = true) {post : Answer request → Role × Unit → Prop}
    (rest : ∀ answer, post answer (.child, ())) : Joins (ask request) (.child, ()) post :=
  (safe_child_plain discipline plain).mpr ⟨⟨calls, rfl⟩, rest⟩

/-- Only the parent comes back, without a child. -/
def Met : Ending → Role × Unit → Prop
  | .returned, now => now = (.parent 0, ())
  | .exited _, _ => True

theorem createMachSharedMemory_joins (size : UInt64) :
    Joins (createMachSharedMemory size) (.parent 0, ()) fun _ now => now = (.parent 0, ()) := by
  apply (safe_bind _ _ _ _ _).mpr
  apply joins_parent rfl
  intro memory
  cases memory with
  | none => exact rfl
  | some memory =>
    apply (safe_bind _ _ _ _ _).mpr
    apply joins_parent rfl
    intro _
    apply (safe_bind _ _ _ _ _).mpr
    apply joins_parent rfl
    intro memoryPort
    cases memoryPort with
    | none =>
      apply (safe_bind _ _ _ _ _).mpr
      exact joins_parent rfl fun _ => rfl
    | some memoryPort => exact rfl

theorem cleanUp_joins (memory memoryPort : Nat) (size : UInt64) :
    Joins (cleanUp memory memoryPort size) (.parent 0, ()) Met := by
  apply (safe_bind _ _ _ _ _).mpr
  apply joins_parent rfl
  intro _
  apply (safe_bind _ _ _ _ _).mpr
  exact joins_parent rfl fun _ => rfl

theorem childProcess_joins (memoryPort : Nat) (size : UInt64) :
    Joins (childProcess memoryPort size) (.child, ()) Met := by
  apply (safe_bind _ _ _ _ _).mpr
  apply joins_child rfl rfl
  intro childMemory
  cases childMemory with
  | none => trivial
  | some childMemory =>
    apply (safe_bind _ _ _ _ _).mpr
    apply joins_child rfl rfl
    intro _
    apply (safe_bind _ _ _ _ _).mpr
    apply joins_child rfl rfl
    intro _
    apply (safe_bind _ _ _ _ _).mpr
    exact joins_child rfl rfl fun _ => trivial

theorem demoMachSharedMemory_joins (sizeMb : UInt64) :
    Joins (demoMachSharedMemory sizeMb) (.parent 0, ()) Met := by
  apply (safe_bind _ _ _ _ _).mpr
  apply (createMachSharedMemory_joins (sizeBytes sizeMb)).mono
  rintro created now rfl
  cases created with
  | none => exact rfl
  | some created =>
    obtain ⟨memory, memoryPort⟩ := created
    refine (safe_fork discipline forking.forks).mpr ⟨Nat.zero_lt_one,
      cleanUp_joins memory memoryPort _, childProcess_joins memoryPort _, fun pid => ?_⟩
    refine (safe_wait discipline (forking.waits pid)).mpr ⟨Multiset.mem_cons_self pid 0, fun _ => ?_⟩
    rw [Multiset.erase_cons_head]
    apply (safe_bind _ _ _ _ _).mpr
    exact joins_parent rfl fun _ => cleanUp_joins memory memoryPort _

theorem process_joins (sizeMb : UInt64) :
    Joins (process sizeMb) (.parent 0, ()) (atEnd fun _ _ => True) := by
  apply (safe_bind _ _ _ _ _).mpr
  apply (demoMachSharedMemory_joins sizeMb).mono
  intro ending now met
  cases ending with
  | returned =>
    rw [show now = (.parent 0, ()) from met]
    exact ⟨rfl, trivial⟩
  | exited status => trivial

/-- Only the child ends its process. -/
theorem process_stays (sizeMb : UInt64) : Stays system (process sizeMb) := by
  have created : Stays system (createMachSharedMemory (sizeBytes sizeMb)) := by
    intro memory _
    cases memory with
    | none => trivial
    | some memory =>
      intro _ _ memoryPort _
      cases memoryPort with
      | none => exact fun _ _ => trivial
      | some memoryPort => trivial
  unfold process demoMachSharedMemory
  rw [Program.bind_assoc]
  apply created.bind
  intro memory
  cases memory with
  | none => trivial
  | some memory =>
    intro forked notChild
    cases forked with
    | failed => exact fun _ _ _ _ => trivial
    | child => exact absurd rfl notChild
    | parent pid => exact fun _ _ _ _ _ _ _ _ => trivial

/-- What the two processes reach by some order of their steps. -/
abbrev Reached (sizeMb : UInt64) : Family Call Answer Unit Unit → Prop :=
  ReflTransGen (Step system) ⟨(), process sizeMb, []⟩

/-- The parent waits for its child before it touches or gives back what it shares with it, and is
not stuck before it has come back. -/
structure Joined (now : Family Call Answer Unit Unit) : Prop where
  waits : ∀ request next, now.parent = .call request next → now.children ≠ [] →
    ∃ pid program, request = .waitpid pid ∧ now.children = [(pid, program)]
  calls : ∀ pid request next, (pid, .call request next) ∈ now.children →
    childCall request = true
  moves : now = ⟨(), .done (), []⟩ ∨ ∃ next, Step system now next
  ends : ReflTransGen (Step system) now ⟨(), .done (), []⟩

theorem reached_supervised {sizeMb : UInt64} {now : Family Call Answer Unit Unit}
    (reached : Reached sizeMb now) : Supervised discipline (fun _ _ => True) now :=
  reachable_supervised reached (.start (process_stays sizeMb) (process_joins sizeMb))

/-- For every size and in every order of the steps of the two processes. -/
theorem mach_processes_joined (sizeMb : UInt64) {now : Family Call Answer Unit Unit}
    (reached : Reached sizeMb now) : Joined now := by
  have supervised := reached_supervised reached
  obtain ⟨store, parent, children⟩ := now
  refine ⟨?_, ?_, ?_, ?_⟩
  · rintro request next rfl living
    exact supervised.stands_at_wait forking rfl living
  · intro pid request next member
    exact (supervised.beside_of_child member).2.1
  · cases supervised.progress with
    | inl moves => exact Or.inr moves
    | inr ended =>
      obtain ⟨rfl, value, rfl, -⟩ := ended
      exact Or.inl rfl
  · obtain ⟨store, value, ends, -⟩ := supervised.ends
    exact ends

/-- The region and its entry are made, and the fork gives a child. -/
theorem reached_forked : ∃ now, Reached 50 now ∧ now.children.length = 1 := by
  have begun : Reached 50 ⟨(), process 50, []⟩ := .refl
  have made := ((begun.tail (.parent rfl (some 0x100000))).tail (.parent rfl ())).tail
    (.parent rfl (some 7))
  exact ⟨_, made.tail (.fork forking.forks 4321 nofun), rfl⟩

theorem mach_processes_joined_forked :
    ∃ now, Reached 50 now ∧ now.children.length = 1 ∧ Joined now := by
  obtain ⟨now, reached, one⟩ := reached_forked
  exact ⟨now, reached, one, mach_processes_joined 50 reached⟩

end Family

end MemoryDemo.Darwin.MachFamily
