import MemoryDemo.Darwin.ActivityDemos
import MemoryDemo.Darwin.ForkReadings
import MemoryDemo.Darwin.MachFamily
import MemoryDemo.Darwin.MachSharedMemory
import MemoryDemo.Darwin.PurgeableDemos
import MemoryDemo.Library.Grains

/-! The demos that fork, at two grains: as programs of calls, where a loop over the pages is one
access, and as instructions on the bytes of their region. Both come from the same phases. -/

namespace MemoryDemo.Darwin.Grains
open Library.CallTree Library.Grains
open Calls (Action Resource Step access munmap)
open FootprintDemos (sizeBytes readFirst withChild)
open SharedPages (Instruction Sharing writePages)
open ForkReadings (Demo)

/-- What a process does with its region before, in and behind the fork; `look` is a loop that reads
a byte of every page. -/
inductive Phase where
  | write (byte : Char)
  | look
  | read
  | check
  | pause
  | unmap
  | call (name : String)
  deriving DecidableEq, Repr

def Phase.instructions (offsets : List UInt64) : Phase → List Instruction
  | .write byte => writePages byte offsets
  | .look => offsets.map .read
  | .read => [.read 0]
  | .check => [.check]
  | .pause => [.waitForUser]
  | .unmap => [.unmap]
  | .call name => [.call name]

/-- The region of a process with the calls that take it apart again. -/
structure Region where
  buffer : Resource
  bytes : UInt64
  unmap : Action Unit
  call : String → Action Unit

def Phase.action (region : Region) : Phase → Action Unit
  | .write _ | .look => access region.buffer region.bytes
  | .read | .check => readFirst region.buffer
  | .pause => return ()
  | .unmap => region.unmap
  | .call name => region.call name

def perform {Call : Type} {Answer : Call → Type} (action : Phase → Program Call Answer Unit) :
    List Phase → Program Call Answer Unit
  | [] => return ()
  | phase :: phases => do
    action phase
    perform action phases

/-- The parent may wait for the user before it waits for its child. Where the fork fails, only the
cleanup is left. -/
structure Phases where
  setUp : List Phase
  child : List Phase
  asks : Bool
  parent : List Phase
  cleanup : List Phase

def Phases.sharing (phases : Phases) (offsets : List UInt64) : Sharing where
  setUp := phases.setUp.flatMap (Phase.instructions offsets)
  child := phases.child.flatMap (Phase.instructions offsets) ++ [.exit 0]
  parent := (if phases.asks then [.waitForUser] else []) ++
    .waitpid :: (phases.parent ++ phases.cleanup).flatMap (Phase.instructions offsets)

def Phases.body (phases : Phases) (region : Region) : Action Unit := do
  perform (Phase.action region) phases.setUp
  withChild (perform (Phase.action region) phases.child)
    (perform (Phase.action region) phases.parent)
  perform (Phase.action region) phases.cleanup

def phases : Demo → Phases
  | .activity .sharedMemory _ =>
    ⟨[.write 'S'], [.read, .write 'C', .read, .pause], true, [.check], [.pause, .unmap]⟩
  | .activity .anonSharedMemoryRprvt _ =>
    ⟨[.write 'R', .pause], [.read, .write 'S', .read, .pause], true, [.check], [.pause, .unmap]⟩
  | .activity .sharedFileMapping _ =>
    ⟨[.look, .pause], [.read, .write 'C', .read, .pause, .call "msync"], true, [.check],
      [.pause, .unmap, .call "close", .call "unlink"]⟩
  | .anonymousSharedMemory _ =>
    ⟨[.write 'A'], [.read, .write 'B', .read, .pause], false, [.check], [.pause, .unmap]⟩
  | .sharedMemory _ =>
    ⟨[.write 'S'], [.read, .write 'C', .read, .pause], false, [.check],
      [.pause, .unmap, .call "close", .call "shm_unlink"]⟩
  | .sysvSharedMemory _ =>
    ⟨[.write 'V'], [.read, .write 'C', .read, .pause, .call "shmdt"], false, [.check],
      [.pause, .unmap, .call "shmctl"]⟩

theorem sharing_eq (demo : Demo) (offsets : List UInt64) :
    demo.sharing offsets = (phases demo).sharing offsets := by
  cases demo with
  | activity demo sizeMb => cases demo <;> simp [Phases.sharing, phases, Phase.instructions,
      Demo.sharing, SharedPages.Demo.sharing, SharedPages.demoSharedMemory,
      SharedPages.demoAnonSharedMemoryRprvt, SharedPages.demoSharedFileMapping]
  | anonymousSharedMemory sizeMb => simp [Phases.sharing, phases, Phase.instructions,
      Demo.sharing, ForkReadings.demoAnonymousSharedMemory]
  | sharedMemory sizeMb => simp [Phases.sharing, phases, Phase.instructions,
      Demo.sharing, ForkReadings.demoSharedMemory]
  | sysvSharedMemory currentSize => simp [Phases.sharing, phases, Phase.instructions,
      Demo.sharing, ForkReadings.demoSysvSharedMemory]

/-- A region that `munmap` takes apart. -/
def mapped (address : Nat) (bytes : UInt64) (call : String → Action Unit) : Region :=
  ⟨.range (.address address) bytes, bytes, munmap (.address address) bytes, call⟩

def noCall (_ : String) : Action Unit := return ()

/-- The exchange that maps a region. -/
def mapping (address : Nat) (bytes : UInt64) (fd : Option Nat) : Step :=
  ⟨.mmap bytes .readWrite .mapShared fd, some address⟩

/-- What the calls of these names are to a process with a file that it has mapped. -/
def closing (fd : Nat) (unlink : Action Unit) (msync : Action Unit) : String → Action Unit
  | "msync" => msync
  | "close" => Calls.close fd
  | "unlink" | "shm_unlink" => unlink
  | _ => return ()

/-- The segment of the id, attached at the address. -/
def attached (address shmid : Nat) (bytes : UInt64) : Region :=
  ⟨.attachment (.address address), bytes, Calls.shmdt (.address address), fun
    | "shmdt" => Calls.shmdt (.address address)
    | "shmctl" => Calls.shmctlRemove shmid
    | _ => return ()⟩

/-- A demo as a program of calls, the exchanges with which it gets its region, and the region. The
System V demo is taken from where its search has found a segment. -/
inductive Obtains : Demo → Action Unit → List Step → Region → Prop where
  | sharedMemory (sizeMb : UInt64) (address : Nat) :
    Obtains (.activity .sharedMemory sizeMb) (ActivityDemos.demoSharedMemory sizeMb)
      [mapping address (sizeBytes sizeMb) none] (mapped address (sizeBytes sizeMb) noCall)
  | anonSharedMemoryRprvt (sizeMb : UInt64) (address : Nat) :
    Obtains (.activity .anonSharedMemoryRprvt sizeMb)
      (ActivityDemos.demoAnonSharedMemoryRprvt sizeMb)
      [mapping address (sizeBytes sizeMb) none] (mapped address (sizeBytes sizeMb) noCall)
  | sharedFileMapping (sizeMb : UInt64) (fd : Nat) (name : String) (block address : Nat)
      (written : Int64) (whole : written.toUInt64 = sizeBytes sizeMb) :
    Obtains (.activity .sharedFileMapping sizeMb) (ActivityDemos.demoSharedFileMapping sizeMb)
      [⟨.mkstemp "/tmp/shared_mapping_test_XXXXXX", some (fd, name)⟩,
        ⟨.ftruncate fd (sizeBytes sizeMb), true⟩, ⟨.malloc (sizeBytes sizeMb), some block⟩,
        ⟨.access (.block (.address block)) (sizeBytes sizeMb), ()⟩,
        ⟨.write fd (sizeBytes sizeMb), written⟩, ⟨.free (.address block), ()⟩,
        mapping address (sizeBytes sizeMb) (some fd)]
      (mapped address (sizeBytes sizeMb)
        (closing fd (Calls.unlink name) (Calls.msync (.address address) (sizeBytes sizeMb))))
  | anonymousSharedMemory (sizeMb : UInt64) (address : Nat) :
    Obtains (.anonymousSharedMemory sizeMb) (FootprintDemos.demoAnonymousSharedMemory sizeMb)
      [mapping address (sizeBytes sizeMb) none] (mapped address (sizeBytes sizeMb) noCall)
  | posixSharedMemory (sizeMb : UInt64) (pid fd address : Nat) :
    Obtains (.sharedMemory sizeMb) (FootprintDemos.demoSharedMemory sizeMb)
      [⟨.getpid, pid⟩, ⟨.shmOpen ("/xnu_footprint_demo_" ++ toString pid), some fd⟩,
        ⟨.ftruncate fd (sizeBytes sizeMb), true⟩, mapping address (sizeBytes sizeMb) (some fd)]
      (mapped address (sizeBytes sizeMb)
        (closing fd (Calls.shmUnlink ("/xnu_footprint_demo_" ++ toString pid)) (return ())))
  | sysvSharedMemory (currentSize : {size : UInt64 // size ∈ FootprintDemos.sizeOptions})
      (shmid address : Nat) :
    Obtains (.sysvSharedMemory currentSize) (FootprintDemos.useSegment shmid currentSize)
      [⟨.shmat shmid, some address⟩] (attached address shmid currentSize)

theorem Obtains.reaches {demo : Demo} {action : Action Unit} {log : List Step} {region : Region}
    (obtains : Obtains demo action log region) :
    Reaches action log ((phases demo).body region) := by
  cases obtains with
  | sharedMemory sizeMb address => exact .behind (.here _)
  | anonSharedMemoryRprvt sizeMb address => exact .behind (.here _)
  | sharedFileMapping sizeMb fd name block address written whole =>
    unfold ActivityDemos.demoSharedFileMapping ActivityDemos.fileMappingDemo
    refine .behind (.behind (.behind (.behind (.behind ?_))))
    change Reaches (if written.toUInt64 ≠ sizeBytes sizeMb then _ else _) _ _
    rw [if_neg (not_not.mpr whole)]
    exact .behind (.behind (.here _))
  | anonymousSharedMemory sizeMb address => exact .behind (.here _)
  | posixSharedMemory sizeMb pid fd address => exact .behind (.behind (.behind (.behind (.here _))))
  | sysvSharedMemory currentSize shmid address => exact .behind (.here _)

/-- In every run of the demo that gets its region: what both processes do with it are the phases
whose instructions the other grain is about. -/
theorem demo_grains {demo : Demo} {action : Action Unit} {log : List Step} {region : Region}
    (obtains : Obtains demo action log region) :
    (∀ offsets, demo.sharing offsets = (phases demo).sharing offsets) ∧
      ∀ (environment : Environment Calls.Call Calls.Answer) (past : List Step),
        log <+: (run environment past action).log →
          let rest := run environment (past ++ log) ((phases demo).body region)
          run environment past action = ⟨log ++ rest.log, rest.result⟩ :=
  ⟨sharing_eq demo, fun environment past begins => obtains.reaches.run environment past begins⟩

section Mach
open MachFamily (Ending creating mapMachSharedMemory)

/-- The phases of the two processes if the child can map the entry. -/
def machPhases : Phases :=
  ⟨[.write 'M'], [.read, .write 'C', .call "vm_deallocate", .call "mach_port_deallocate"], false,
    [.check], [.call "mach_port_deallocate", .unmap]⟩

/-- In this program one access stands for all that a process does with the bytes. -/
def machAction (memory memoryPort : Nat) (size : UInt64) : Phase → MachFamily.Action Unit
  | .write _ | .check => MachFamily.ask (.access memory size)
  | .unmap | .call "vm_deallocate" => MachFamily.ask (.vmDeallocate memory size)
  | .call "mach_port_deallocate" => MachFamily.ask (.machPortDeallocate memoryPort)
  | .read | .look | .pause | .call _ => return ()

def machBody (memory memoryPort : Nat) (size : UInt64) : MachFamily.Action Ending := do
  match ← MachFamily.ask .fork with
  | .failed => do
    perform (machAction memory memoryPort size) machPhases.cleanup
    return .returned
  | .child => do
    match ← mapMachSharedMemory memoryPort size with
    | none => return .exited 1
    | some childMemory => do
      perform (machAction childMemory memoryPort size) machPhases.child
      return .exited 0
  | .parent pid => do
    MachFamily.ask (.waitpid pid)
    perform (machAction memory memoryPort size) (machPhases.parent ++ machPhases.cleanup)
    return .returned

theorem machSharing_eq {kernel : MachSharedMemory.Kernel} (granted : kernel.vmMap = true)
    (offsets : List UInt64) :
    Sharing.mk (writePages 'M' offsets) (MachSharedMemory.childProgram kernel offsets)
      MachSharedMemory.parentProgram = machPhases.sharing offsets := by
  simp [MachSharedMemory.childProgram, MachSharedMemory.parentProgram, granted, Phases.sharing,
    machPhases, Phase.instructions]

theorem mach_reaches (sizeMb : UInt64) (memory memoryPort : Nat) :
    Reaches (MachFamily.demoMachSharedMemory sizeMb) (creating (sizeBytes sizeMb) memory memoryPort)
      (machBody memory memoryPort (sizeBytes sizeMb)) :=
  .behind (.behind (.behind (.here _)))

/-- In every run of the demo that makes its port: what both processes do then are the phases whose
instructions the other grain is about, if the child can map the entry. -/
theorem mach_grains (sizeMb : UInt64) (memory memoryPort : Nat) :
    (∀ kernel input offsets start, SharedPages.pageOffsets (sizeBytes sizeMb) = some offsets →
      MachSharedMemory.demoMachSharedMemory kernel sizeMb input = some start →
        kernel.vmMap = true →
          start = (machPhases.sharing offsets).forked MachSharedMemory.zeroFilled input) ∧
      ∀ (environment : Environment MachFamily.Call MachFamily.Answer) (past : MachFamily.Log),
        creating (sizeBytes sizeMb) memory memoryPort <+:
            (run environment past (MachFamily.demoMachSharedMemory sizeMb)).log →
          let rest := run environment (past ++ creating (sizeBytes sizeMb) memory memoryPort)
            (machBody memory memoryPort (sizeBytes sizeMb))
          run environment past (MachFamily.demoMachSharedMemory sizeMb) =
            ⟨creating (sizeBytes sizeMb) memory memoryPort ++ rest.log, rest.result⟩ := by
  refine ⟨fun kernel input offsets start listed forked granted => ?_, fun environment past begins =>
    (mach_reaches sizeMb memory memoryPort).run environment past begins⟩
  rw [MachSharedMemory.demo_forks listed forked, machSharing_eq granted offsets]

end Mach

section Purgeable
open PurgeableDemos (storePages allocatePressure freePressure)

/-- The calls that the coarser programs leave out. -/
def idle : (request : PurgeableDemos.Call) → Option (PurgeableDemos.Answer request)
  | .printMemoryInfo | .waitForUser | .print _ => some ()
  | _ => none

/-- A call on the region at the address or on the object of that id, carried out on the bytes: an
access of one byte reads the first one, and one of more bytes is the loop. -/
def carry (address : Nat) (offsets : List UInt64) :
    (request : Calls.Call) → PurgeableDemos.Action (Calls.Answer request)
  | .vmAllocate size => do
    return if (← PurgeableDemos.ask (.vmAllocate size)) = true then some address else none
  | .vmPurgableControl _ => do
    let _ ← PurgeableDemos.ask (.vmPurgableControl .nonvolatile)
  | .vmDeallocate _ _ => PurgeableDemos.ask .vmDeallocate
  | .purgeableData size => do
    return if (← PurgeableDemos.ask (.initWithLength size)) = true then some address else none
  | .beginContentAccess _ => PurgeableDemos.ask .beginContentAccess
  | .mutableBytes _ => do
    return if (← PurgeableDemos.ask .mutableBytes) = true then some address else none
  | .endContentAccess _ => PurgeableDemos.ask .endContentAccess
  | .access (.range _ _) bytes =>
    if bytes = 1 then do
      let _ ← PurgeableDemos.ask (.load .region 0)
    else storePages .region 'P' offsets
  | .access (.object _) bytes =>
    if bytes = 1 then do
      let _ ← PurgeableDemos.ask (.load .data 0)
    else storePages .data 'N' offsets
  | .malloc size => PurgeableDemos.ask (.malloc size)
  | .access (.block (.address block)) _ => PurgeableDemos.ask (.fillPages block)
  | .free (.address block) => PurgeableDemos.ask (.free block)
  | _ => .halt

variable (address : Nat) (offsets : List UInt64)

theorem leaveOut_storePages (buffer : PurgeableDemos.Buffer) (byte : Char)
    (written : List UInt64) :
    leaveOut idle (storePages buffer byte written) = storePages buffer byte written := by
  induction written with
  | nil => rfl
  | cons offset rest ih =>
    exact congrArg (Program.call (PurgeableDemos.Call.store buffer offset byte)) (funext fun _ => ih)

/-- The blocks of memory pressure are the same at both grains. -/
theorem pressure_carried {α : Type} {next : List Nat → PurgeableDemos.Action α}
    {coarse : List Calls.Ptr → Action α}
    (goesOn : ∀ kept, leaveOut idle (next kept) =
      carryOut (carry address offsets) (coarse (kept.map .address)))
    (rounds : Nat) (blocks : List Nat) :
    leaveOut idle (allocatePressure rounds blocks >>= next) =
      carryOut (carry address offsets)
        (FootprintDemos.allocateChunks ActivityDemos.pressureChunk rounds
          (blocks.map .address) >>= coarse) := by
  induction rounds generalizing blocks with
  | zero => exact goesOn blocks
  | succ rounds ih =>
    refine congrArg (Program.call (PurgeableDemos.Call.malloc ActivityDemos.pressureChunk))
      (funext fun answer => ?_)
    cases answer with
    | none => exact goesOn blocks
    | some block =>
      refine congrArg (Program.call (PurgeableDemos.Call.fillPages block)) (funext fun _ => ?_)
      have later := ih (blocks ++ [block])
      rw [List.map_append] at later
      exact later

theorem freePressure_carried (blocks : List Nat) :
    leaveOut idle (freePressure blocks) =
      carryOut (carry address offsets) (FootprintDemos.freeChunks (blocks.map .address)) := by
  induction blocks with
  | nil => rfl
  | cons block rest ih =>
    exact congrArg (Program.call (PurgeableDemos.Call.free block)) (funext fun _ => ih)

theorem told_leaveOut (byte : Char) :
    leaveOut idle (PurgeableDemos.tellFirstByte byte) = return () := by
  unfold PurgeableDemos.tellFirstByte
  split <;> rfl

theorem sizeBytes_ne_one (sizeMb : UInt64) : sizeBytes sizeMb ≠ 1 := by
  intro one
  have same := congrArg UInt64.toNat one
  simp only [sizeBytes, UInt64.toNat_mul, UInt64.toNat_ofNat] at same
  omega

/-- The purgeable region of so many bytes. -/
def region (address : Nat) (bytes : UInt64) : Resource :=
  .range (.address address) bytes

theorem useRegion_carried {bytes : UInt64} (many : bytes ≠ 1) :
    leaveOut idle (PurgeableDemos.useRegion offsets) =
      carryOut (carry address offsets) (do
        access (region address bytes) bytes
        Calls.vmPurgableControl (region address bytes)
        let pressureBuffers ← FootprintDemos.allocateChunks ActivityDemos.pressureChunk 5 []
        readFirst (region address bytes)
        FootprintDemos.freeChunks pressureBuffers
        Calls.vmDeallocate (.address address) bytes) := by
  have loop : carry address offsets (.access (region address bytes) bytes) =
      storePages .region 'P' offsets := if_neg many
  unfold PurgeableDemos.useRegion
  rw [leaveOut_bind, leaveOut_storePages, ← loop]
  refine congrArg (carry address offsets (.access (region address bytes) bytes) >>= ·)
    (funext fun _ => ?_)
  refine congrArg (Program.call (PurgeableDemos.Call.vmPurgableControl .nonvolatile))
    (funext fun _ => ?_)
  apply pressure_carried address offsets _ 5 []
  intro kept
  refine congrArg (Program.call (PurgeableDemos.Call.load .region 0)) (funext fun byte => ?_)
  change leaveOut idle (PurgeableDemos.tellFirstByte byte >>= fun _ => do
      PurgeableDemos.ask .printMemoryInfo
      PurgeableDemos.ask .waitForUser
      freePressure kept
      PurgeableDemos.ask .vmDeallocate) = carryOut (carry address offsets) (do
        FootprintDemos.freeChunks (kept.map .address)
        Calls.vmDeallocate (.address address) bytes)
  rw [leaveOut_bind, told_leaveOut, carryOut_bind, ← freePressure_carried]
  exact leaveOut_bind idle (freePressure kept) fun _ => PurgeableDemos.ask .vmDeallocate

/-- The demo on the bytes is the demo of calls carried out, but for what it prints. -/
theorem demoPurgeableMemory_carried (sizeMb : UInt64)
    (listed : SharedPages.pageOffsets (sizeBytes sizeMb) = some offsets) :
    leaveOut idle (PurgeableDemos.demoPurgeableMemory sizeMb) =
      carryOut (carry address offsets) (ActivityDemos.demoPurgeableMemory sizeMb) := by
  refine congrArg (Program.call (PurgeableDemos.Call.vmAllocate (sizeBytes sizeMb)))
    (funext fun allocated => ?_)
  cases allocated with
  | false => rfl
  | true =>
    have used := useRegion_carried address offsets (sizeBytes_ne_one sizeMb)
    simp only [listed]
    exact used

/-- What can still be had of the object is read in the same cases. -/
theorem readBack_carried :
    leaveOut idle PurgeableDemos.readBack =
      carryOut (carry address offsets) (ActivityDemos.readBack address) := by
  refine congrArg (Program.call PurgeableDemos.Call.beginContentAccess) (funext fun begun => ?_)
  cases begun with
  | false => rfl
  | true =>
    refine congrArg (Program.call PurgeableDemos.Call.mutableBytes) (funext fun found => ?_)
    cases found with
    | false => rfl
    | true => rfl

theorem useData_carried {bytes : UInt64} (many : bytes ≠ 1) :
    leaveOut idle (PurgeableDemos.useData offsets) =
      carryOut (carry address offsets) (do
        access (.object address) bytes
        Calls.endContentAccess address
        let pressureBuffers ← FootprintDemos.allocateChunks ActivityDemos.pressureChunk 5 []
        ActivityDemos.readBack address
        FootprintDemos.freeChunks pressureBuffers) := by
  have loop : carry address offsets (.access (.object address) bytes) =
      storePages .data 'N' offsets := if_neg many
  unfold PurgeableDemos.useData
  rw [leaveOut_bind, leaveOut_storePages, ← loop]
  refine congrArg (carry address offsets (.access (.object address) bytes) >>= ·)
    (funext fun _ => ?_)
  refine congrArg (Program.call PurgeableDemos.Call.endContentAccess) (funext fun _ => ?_)
  apply pressure_carried address offsets _ 5 []
  intro kept
  rw [leaveOut_bind, readBack_carried address offsets, carryOut_bind, ← freePressure_carried]
  rfl

theorem demoPurgeableData_carried (sizeMb : UInt64)
    (listed : SharedPages.pageOffsets (sizeBytes sizeMb) = some offsets) :
    leaveOut idle (PurgeableDemos.demoPurgeableData sizeMb) =
      carryOut (carry address offsets) (ActivityDemos.demoPurgeableData sizeMb) := by
  refine congrArg (Program.call (PurgeableDemos.Call.initWithLength (sizeBytes sizeMb)))
    (funext fun created => ?_)
  cases created with
  | false => rfl
  | true =>
    refine congrArg (Program.call PurgeableDemos.Call.beginContentAccess) (funext fun begun => ?_)
    cases begun with
    | false => rfl
    | true =>
      refine congrArg (Program.call PurgeableDemos.Call.mutableBytes) (funext fun found => ?_)
      cases found with
      | false => rfl
      | true =>
        have used := useData_carried address offsets (sizeBytes_ne_one sizeMb)
        simp only [listed]
        exact used

end Purgeable

end MemoryDemo.Darwin.Grains
