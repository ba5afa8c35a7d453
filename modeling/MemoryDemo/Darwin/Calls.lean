import MemoryDemo.Library.Ledger

/-! The system and library calls of the macOS programs, what each acquires and releases,
and the rule of each call. Calls that own nothing (prints, metrics, sleeps, reading the
Enter key) are left out of the programs. Release calls succeed. -/

namespace MemoryDemo.Darwin.Calls
open Library.CallTree Library.Ledger

/-- A pointer as the calls return it; `mapFailed` is `(void *)-1`, which `shmat` uses too. -/
inductive Ptr where
  | null
  | mapFailed
  | address (value : Nat)
  deriving DecidableEq, Repr

inductive Prot where
  | read
  | readWrite
  deriving DecidableEq, Repr

inductive Sharing where
  | mapPrivate
  | mapShared
  deriving DecidableEq, Repr

inductive OpenMode where
  | readOnly
  | readWrite
  deriving DecidableEq, Repr

/-- What a program has to give back. -/
inductive Resource where
  | range (start : Ptr) (size : UInt64)
  | block (start : Ptr)
  | descriptor (fd : Nat)
  | stream (id : Nat)
  | tempFile (name : String)
  | shmName (name : String)
  | segment (shmid : Nat)
  | attachment (start : Ptr)
  | child (pid : Nat)
  | object (id : Nat)
  deriving DecidableEq, Repr

inductive Fork where
  | failed
  | child
  | parent (pid : Nat)
  deriving DecidableEq, Repr

/-- Reads and writes through a pointer are the call `access`, with the number of bytes
that the loop or the function goes over. A mapping without a descriptor is anonymous.
`purgeableData` is `[[NSPurgeableData alloc] initWithLength:size]`. -/
inductive Call where
  | malloc (size : UInt64)
  | free (start : Ptr)
  | mmap (size : UInt64) (prot : Prot) (sharing : Sharing) (fd : Option Nat)
  | munmap (start : Ptr) (size : UInt64)
  | msync (start : Ptr) (size : UInt64)
  | vmAllocate (size : UInt64)
  | vmDeallocate (start : Ptr) (size : UInt64)
  | vmPurgableControl (target : Resource)
  | access (target : Resource) (bytes : UInt64)
  | openFile (path : String) (mode : OpenMode)
  | mkstemp (template : String)
  | write (fd : Nat) (bytes : UInt64)
  | fstat (fd : Nat)
  | close (fd : Nat)
  | openInput (path : String)
  | streamSize (id : Nat)
  | openOutput (path : String)
  | writeStream (id : Nat) (bytes : UInt64)
  | closeStream (id : Nat)
  | remove (path : String)
  | unlink (path : String)
  | ftruncate (fd : Nat) (size : UInt64)
  | shmOpen (name : String)
  | shmUnlink (name : String)
  | shmget (key : Nat) (size : UInt64) (flags : Nat)
  | shmctlRemove (shmid : Nat)
  | shmat (shmid : Nat)
  | shmdt (start : Ptr)
  | fork
  | waitpid (pid : Nat)
  | getpid
  | system (command : String)
  | purgeableData (size : UInt64)
  | beginContentAccess (object : Nat)
  | mutableBytes (object : Nat)
  | endContentAccess (object : Nat)
  deriving Repr

/-- The answer to a call; `none` and `false` are its failures. -/
@[reducible] def Answer : Call → Type
  | .malloc _ | .mmap _ _ _ _ | .vmAllocate _ | .shmat _ => Option Nat
  | .openFile _ _ | .openInput _ | .openOutput _ | .shmOpen _ | .shmget _ _ _ => Option Nat
  | .purgeableData _ | .mutableBytes _ => Option Nat
  | .mkstemp _ => Option (Nat × String)
  | .write _ _ => Int64
  | .fstat _ => Option UInt64
  | .ftruncate _ _ | .beginContentAccess _ => Bool
  | .streamSize _ => UInt64
  | .fork => Fork
  | .getpid => Nat
  | .system _ => Int
  | .free _ | .munmap _ _ | .msync _ _ | .vmPurgableControl _ | .access _ _ | .close _ => Unit
  | .writeStream _ _ | .closeStream _ | .remove _ | .unlink _ | .shmUnlink _ => Unit
  | .shmctlRemove _ | .shmdt _ | .waitpid _ | .vmDeallocate _ _ | .endContentAccess _ => Unit

/-- Calls without a value return it, and the others fail. -/
def refuse : (request : Call) → Answer request
  | .malloc _ | .mmap _ _ _ _ | .vmAllocate _ | .shmat _ => none
  | .openFile _ _ | .openInput _ | .openOutput _ | .shmOpen _ | .shmget _ _ _ => none
  | .purgeableData _ | .mutableBytes _ | .mkstemp _ | .fstat _ => none
  | .write _ _ => -1
  | .ftruncate _ _ | .beginContentAccess _ => false
  | .streamSize _ => 0
  | .fork => .failed
  | .getpid => 1
  | .system _ => -1
  | .free _ | .munmap _ _ | .msync _ _ | .vmPurgableControl _ | .access _ _ | .close _ => ()
  | .writeStream _ _ | .closeStream _ | .remove _ | .unlink _ | .shmUnlink _ => ()
  | .shmctlRemove _ | .shmdt _ | .waitpid _ | .vmDeallocate _ _ | .endContentAccess _ => ()

abbrev Action (α : Type) : Type := Program Call Answer α

abbrev Step : Type := Exchange Call Answer

/-- `IPC_PRIVATE`. -/
def ipcPrivate : Nat := 0

/-- A mapping of a file needs its descriptor. -/
def backing (fd : Option Nat) : List (Event Resource) :=
  match fd with
  | some fd => [.use (.descriptor fd)]
  | none => []

/-- The events of an exchange. A segment of the key `IPC_PRIVATE` is always a new one, and
`free` of a null pointer does nothing. -/
@[simp]
def effect : Step → List (Event Resource)
  | ⟨.malloc _, some address⟩ => [.acquire (.block (.address address))]
  | ⟨.free start, _⟩ => if start = .null then [] else [.release (.block start)]
  | ⟨.mmap size _ _ fd, some address⟩ => backing fd ++ [.acquire (.range (.address address) size)]
  | ⟨.mmap _ _ _ fd, none⟩ => backing fd
  | ⟨.munmap start size, _⟩ => [.release (.range start size)]
  | ⟨.msync start size, _⟩ => [.use (.range start size)]
  | ⟨.vmAllocate size, some address⟩ => [.acquire (.range (.address address) size)]
  | ⟨.vmDeallocate start size, _⟩ => [.release (.range start size)]
  | ⟨.vmPurgableControl target, _⟩ => [.use target]
  | ⟨.access target _, _⟩ => [.use target]
  | ⟨.openFile _ _, some fd⟩ => [.acquire (.descriptor fd)]
  | ⟨.mkstemp _, some (fd, name)⟩ => [.acquire (.tempFile name), .acquire (.descriptor fd)]
  | ⟨.write fd _, _⟩ => [.use (.descriptor fd)]
  | ⟨.fstat fd, _⟩ => [.use (.descriptor fd)]
  | ⟨.close fd, _⟩ => [.release (.descriptor fd)]
  | ⟨.openInput _, some id⟩ => [.acquire (.stream id)]
  | ⟨.streamSize id, _⟩ => [.use (.stream id)]
  | ⟨.openOutput path, some id⟩ => [.acquire (.tempFile path), .acquire (.stream id)]
  | ⟨.writeStream id _, _⟩ => [.use (.stream id)]
  | ⟨.closeStream id, _⟩ => [.release (.stream id)]
  | ⟨.remove path, _⟩ => [.release (.tempFile path)]
  | ⟨.unlink path, _⟩ => [.release (.tempFile path)]
  | ⟨.ftruncate fd _, _⟩ => [.use (.descriptor fd)]
  | ⟨.shmOpen name, some fd⟩ => [.acquire (.shmName name), .acquire (.descriptor fd)]
  | ⟨.shmUnlink name, _⟩ => [.release (.shmName name)]
  | ⟨.shmget key _ _, some shmid⟩ => if key = ipcPrivate then [.acquire (.segment shmid)] else []
  | ⟨.shmctlRemove shmid, _⟩ => [.release (.segment shmid)]
  | ⟨.shmat shmid, some address⟩ =>
    [.use (.segment shmid), .acquire (.attachment (.address address))]
  | ⟨.shmat shmid, none⟩ => [.use (.segment shmid)]
  | ⟨.shmdt start, _⟩ => [.release (.attachment start)]
  | ⟨.fork, .parent pid⟩ => [.acquire (.child pid)]
  | ⟨.waitpid pid, _⟩ => [.release (.child pid)]
  | ⟨.purgeableData _, some id⟩ => [.acquire (.object id)]
  | ⟨.beginContentAccess id, _⟩ => [.use (.object id)]
  | ⟨.mutableBytes id, _⟩ => [.use (.object id)]
  | ⟨.endContentAccess id, _⟩ => [.use (.object id)]
  | ⟨.malloc _, none⟩ | ⟨.vmAllocate _, none⟩ | ⟨.openFile _ _, none⟩ => []
  | ⟨.mkstemp _, none⟩ | ⟨.purgeableData _, none⟩ => []
  | ⟨.openInput _, none⟩ | ⟨.openOutput _, none⟩ | ⟨.shmOpen _, none⟩ => []
  | ⟨.shmget _ _ _, none⟩ | ⟨.fork, .failed⟩ | ⟨.fork, .child⟩ => []
  | ⟨.getpid, _⟩ | ⟨.system _, _⟩ => []

/-- The pointer behind an answer, where a failure is the pointer `failure`. -/
def pointer (failure : Ptr) : Option Nat → Ptr
  | some address => .address address
  | none => failure

abbrev ask (request : Call) : Action (Answer request) :=
  Program.ask request

def malloc (size : UInt64) : Action Ptr := do
  return pointer .null (← ask (.malloc size))

def mmap (size : UInt64) (prot : Prot) (sharing : Sharing) (fd : Option Nat) : Action Ptr := do
  return pointer .mapFailed (← ask (.mmap size prot sharing fd))

def free (start : Ptr) : Action Unit :=
  ask (.free start)

def munmap (start : Ptr) (size : UInt64) : Action Unit :=
  ask (.munmap start size)

def msync (start : Ptr) (size : UInt64) : Action Unit :=
  ask (.msync start size)

def vmAllocate (size : UInt64) : Action (Option Nat) :=
  ask (.vmAllocate size)

def vmDeallocate (start : Ptr) (size : UInt64) : Action Unit :=
  ask (.vmDeallocate start size)

def vmPurgableControl (target : Resource) : Action Unit :=
  ask (.vmPurgableControl target)

def access (target : Resource) (bytes : UInt64) : Action Unit :=
  ask (.access target bytes)

def openFile (path : String) (mode : OpenMode) : Action (Option Nat) :=
  ask (.openFile path mode)

def mkstemp (template : String) : Action (Option (Nat × String)) :=
  ask (.mkstemp template)

/-- The number of bytes written, or -1. -/
def write (fd : Nat) (bytes : UInt64) : Action Int64 :=
  ask (.write fd bytes)

/-- The `st_size` that `fstat` fills in. -/
def fstat (fd : Nat) : Action (Option UInt64) :=
  ask (.fstat fd)

def close (fd : Nat) : Action Unit :=
  ask (.close fd)

def openInput (path : String) : Action (Option Nat) :=
  ask (.openInput path)

def streamSize (id : Nat) : Action UInt64 :=
  ask (.streamSize id)

def openOutput (path : String) : Action (Option Nat) :=
  ask (.openOutput path)

def writeStream (id : Nat) (bytes : UInt64) : Action Unit :=
  ask (.writeStream id bytes)

def closeStream (id : Nat) : Action Unit :=
  ask (.closeStream id)

def remove (path : String) : Action Unit :=
  ask (.remove path)

def unlink (path : String) : Action Unit :=
  ask (.unlink path)

/-- `true` where `ftruncate` does not return -1. -/
def ftruncate (fd : Nat) (size : UInt64) : Action Bool :=
  ask (.ftruncate fd size)

def shmOpen (name : String) : Action (Option Nat) :=
  ask (.shmOpen name)

def shmUnlink (name : String) : Action Unit :=
  ask (.shmUnlink name)

def shmget (key : Nat) (size : UInt64) (flags : Nat) : Action (Option Nat) :=
  ask (.shmget key size flags)

/-- `shmctl` with `IPC_RMID`. -/
def shmctlRemove (shmid : Nat) : Action Unit :=
  ask (.shmctlRemove shmid)

def shmat (shmid : Nat) : Action Ptr := do
  return pointer .mapFailed (← ask (.shmat shmid))

def shmdt (start : Ptr) : Action Unit :=
  ask (.shmdt start)

def fork : Action Fork :=
  ask .fork

def waitpid (pid : Nat) : Action Unit :=
  ask (.waitpid pid)

def getpid : Action Nat :=
  ask .getpid

def system (command : String) : Action Int :=
  ask (.system command)

def purgeableData (size : UInt64) : Action (Option Nat) :=
  ask (.purgeableData size)

def beginContentAccess (object : Nat) : Action Bool :=
  ask (.beginContentAccess object)

def mutableBytes (object : Nat) : Action (Option Nat) :=
  ask (.mutableBytes object)

def endContentAccess (object : Nat) : Action Unit :=
  ask (.endContentAccess object)

/-- `exit(0)`. -/
def exit {α : Type} : Action α :=
  .halt

def refusing : Environment Call Answer :=
  fun _ => refuse

/-- Every call succeeds, and the fork answers in the parent; a new object is numbered by
the calls before it. -/
def granting : Environment Call Answer := fun past request =>
  match request with
  | .malloc _ | .mmap _ _ _ _ | .vmAllocate _ | .shmat _ => some (4096 * (past.length + 1))
  | .openFile _ _ | .openInput _ | .openOutput _ | .shmOpen _ => some (past.length + 3)
  | .purgeableData _ | .mutableBytes _ => some (4096 * (past.length + 1))
  | .mkstemp template => some (past.length + 3, template)
  | .write _ bytes => bytes.toInt64
  | .shmget _ _ _ => some (65536 + past.length)
  | .ftruncate _ _ | .beginContentAccess _ => true
  | .fork => .parent 4321
  | request => refuse request

/-- Runs of the action never touch what is not held, and end with the condition. -/
abbrev Keeps {α : Type} (action : Action α) (held : Multiset Resource)
    (post : α → Multiset Resource → Prop) : Prop :=
  Safe (holding effect) action held post

/-- Whatever is held before, a run that returns holds the same. -/
def Restores (action : Action Unit) : Prop :=
  ∀ held, Keeps action held fun _ after => after = held

section Rules
variable {held : Multiset Resource}

@[simp]
theorem keeps_pure {α : Type} (value : α) (post : α → Multiset Resource → Prop) :
    Keeps (pure value) held post ↔ post value held :=
  safe_pure _ value held post

@[simp]
theorem keeps_exit {α : Type} (post : α → Multiset Resource → Prop) :
    Keeps (exit : Action α) held post ↔ True :=
  safe_halt _ held post

@[simp]
theorem keeps_bind {α β : Type} (action : Action α) (next : α → Action β)
    (post : β → Multiset Resource → Prop) :
    Keeps (action >>= next) held post ↔
      Keeps action held fun value after => Keeps (next value) after post :=
  safe_bind _ action next held post

@[simp]
theorem keeps_malloc (size : UInt64) (post : Ptr → Multiset Resource → Prop) :
    Keeps (malloc size) held post ↔
      post .null held ∧
        ∀ address, post (.address address) (.block (.address address) ::ₘ held) := by
  rw [malloc, keeps_bind]
  exact safe_ask_answer (holding effect) (.malloc size) (fun _ => Option.forall) rfl
    (fun _ => rfl) _

@[simp]
theorem keeps_mmap_anonymous (size : UInt64) (prot : Prot) (sharing : Sharing)
    (post : Ptr → Multiset Resource → Prop) :
    Keeps (mmap size prot sharing none) held post ↔
      post .mapFailed held ∧
        ∀ address, post (.address address) (.range (.address address) size ::ₘ held) := by
  rw [mmap, keeps_bind]
  exact safe_ask_answer (holding effect) (.mmap size prot sharing none) (fun _ => Option.forall) rfl
    (fun _ => rfl) _

@[simp]
theorem keeps_mmap_file (size : UInt64) (prot : Prot) (sharing : Sharing) {fd : Nat}
    (post : Ptr → Multiset Resource → Prop) (opened : .descriptor fd ∈ held) :
    Keeps (mmap size prot sharing (some fd)) held post ↔
      post .mapFailed held ∧
        ∀ address, post (.address address) (.range (.address address) size ::ₘ held) := by
  rw [mmap, keeps_bind]
  exact safe_ask_answer (holding effect) (.mmap size prot sharing (some fd))
    (fun _ => Option.forall)
    (by simp [holding, backing, replay, record, opened])
    (by simp [holding, backing, replay, record, opened]) _

@[simp]
theorem keeps_vmAllocate (size : UInt64) (post : Option Nat → Multiset Resource → Prop) :
    Keeps (vmAllocate size) held post ↔
      post none held ∧
        ∀ address, post (some address) (.range (.address address) size ::ₘ held) :=
  safe_ask_answer (holding effect) (.vmAllocate size) (fun _ => Option.forall) rfl
    (fun _ => rfl) post

@[simp]
theorem keeps_openFile (path : String) (mode : OpenMode)
    (post : Option Nat → Multiset Resource → Prop) :
    Keeps (openFile path mode) held post ↔
      post none held ∧ ∀ fd, post (some fd) (.descriptor fd ::ₘ held) :=
  safe_ask_answer (holding effect) (.openFile path mode) (fun _ => Option.forall) rfl
    (fun _ => rfl) post

@[simp]
theorem keeps_mkstemp (template : String)
    (post : Option (Nat × String) → Multiset Resource → Prop) :
    Keeps (mkstemp template) held post ↔
      post none held ∧
        ∀ fd name, post (some (fd, name)) (.descriptor fd ::ₘ .tempFile name ::ₘ held) :=
  (safe_ask_answer (holding effect) (.mkstemp template) (fun _ => Option.forall) rfl
    (fun _ => rfl) post).trans
    (and_congr_right fun _ => Prod.forall)

@[simp]
theorem keeps_openInput (path : String) (post : Option Nat → Multiset Resource → Prop) :
    Keeps (openInput path) held post ↔
      post none held ∧ ∀ id, post (some id) (.stream id ::ₘ held) :=
  safe_ask_answer (holding effect) (.openInput path) (fun _ => Option.forall) rfl
    (fun _ => rfl) post

@[simp]
theorem keeps_openOutput (path : String) (post : Option Nat → Multiset Resource → Prop) :
    Keeps (openOutput path) held post ↔
      post none held ∧ ∀ id, post (some id) (.stream id ::ₘ .tempFile path ::ₘ held) :=
  safe_ask_answer (holding effect) (.openOutput path) (fun _ => Option.forall) rfl
    (fun _ => rfl) post

@[simp]
theorem keeps_shmOpen (name : String) (post : Option Nat → Multiset Resource → Prop) :
    Keeps (shmOpen name) held post ↔
      post none held ∧ ∀ fd, post (some fd) (.descriptor fd ::ₘ .shmName name ::ₘ held) :=
  safe_ask_answer (holding effect) (.shmOpen name) (fun _ => Option.forall) rfl (fun _ => rfl) post

@[simp]
theorem keeps_shmget (size : UInt64) (flags : Nat)
    (post : Option Nat → Multiset Resource → Prop) :
    Keeps (shmget ipcPrivate size flags) held post ↔
      post none held ∧ ∀ shmid, post (some shmid) (.segment shmid ::ₘ held) :=
  safe_ask_answer (holding effect) (.shmget ipcPrivate size flags) (fun _ => Option.forall) rfl
    (fun _ => rfl) post

@[simp]
theorem keeps_shmat {shmid : Nat} (post : Ptr → Multiset Resource → Prop)
    (member : .segment shmid ∈ held) :
    Keeps (shmat shmid) held post ↔
      post .mapFailed held ∧
        ∀ address, post (.address address) (.attachment (.address address) ::ₘ held) := by
  rw [shmat, keeps_bind]
  exact safe_ask_answer (holding effect) (.shmat shmid) (fun _ => Option.forall)
    (by simp [holding, replay, record, member]) (by simp [holding, replay, record, member]) _

theorem forall_fork (holds : Fork → Prop) :
    (∀ fork, holds fork) ↔ holds .failed ∧ holds .child ∧ ∀ pid, holds (.parent pid) := by
  constructor
  · intro all
    exact ⟨all .failed, all .child, fun pid => all (.parent pid)⟩
  · intro each fork
    cases fork with
    | failed => exact each.1
    | child => exact each.2.1
    | parent pid => exact each.2.2 pid

@[simp]
theorem keeps_fork (post : Fork → Multiset Resource → Prop) :
    Keeps fork held post ↔
      post .failed held ∧ post .child held ∧ ∀ pid, post (.parent pid) (.child pid ::ₘ held) := by
  simp [fork, safe_ask, forall_fork, holding, effect, replay, record]

@[simp]
theorem keeps_access {target : Resource} (bytes : UInt64) (post : Unit → Multiset Resource → Prop)
    (member : target ∈ held) :
    Keeps (access target bytes) held post ↔ post () held :=
  (safe_ask_use effect (.access target bytes) (fun _ => rfl) held post member).trans
    Unique.forall_iff

@[simp]
theorem keeps_msync {start : Ptr} {size : UInt64} (post : Unit → Multiset Resource → Prop)
    (member : .range start size ∈ held) :
    Keeps (msync start size) held post ↔ post () held :=
  (safe_ask_use effect (.msync start size) (fun _ => rfl) held post member).trans
    Unique.forall_iff

@[simp]
theorem keeps_vmPurgableControl {target : Resource} (post : Unit → Multiset Resource → Prop)
    (member : target ∈ held) :
    Keeps (vmPurgableControl target) held post ↔ post () held :=
  (safe_ask_use effect (.vmPurgableControl target) (fun _ => rfl) held post member).trans
    Unique.forall_iff

@[simp]
theorem keeps_streamSize {id : Nat} (post : UInt64 → Multiset Resource → Prop)
    (member : .stream id ∈ held) :
    Keeps (streamSize id) held post ↔ ∀ answer, post answer held :=
  safe_ask_use effect (.streamSize id) (fun _ => rfl) held post member

@[simp]
theorem keeps_writeStream {id : Nat} (bytes : UInt64) (post : Unit → Multiset Resource → Prop)
    (member : .stream id ∈ held) :
    Keeps (writeStream id bytes) held post ↔ post () held :=
  (safe_ask_use effect (.writeStream id bytes) (fun _ => rfl) held post member).trans
    Unique.forall_iff

@[simp]
theorem keeps_ftruncate {fd : Nat} (size : UInt64) (post : Bool → Multiset Resource → Prop)
    (member : .descriptor fd ∈ held) :
    Keeps (ftruncate fd size) held post ↔ ∀ answer, post answer held :=
  safe_ask_use effect (.ftruncate fd size) (fun _ => rfl) held post member

@[simp]
theorem keeps_write {fd : Nat} (bytes : UInt64) (post : Int64 → Multiset Resource → Prop)
    (member : .descriptor fd ∈ held) :
    Keeps (write fd bytes) held post ↔ ∀ answer, post answer held :=
  safe_ask_use effect (.write fd bytes) (fun _ => rfl) held post member

@[simp]
theorem keeps_beginContentAccess {id : Nat} (post : Bool → Multiset Resource → Prop)
    (member : .object id ∈ held) :
    Keeps (beginContentAccess id) held post ↔ ∀ answer, post answer held :=
  safe_ask_use effect (.beginContentAccess id) (fun _ => rfl) held post member

@[simp]
theorem keeps_mutableBytes {id : Nat} (post : Option Nat → Multiset Resource → Prop)
    (member : .object id ∈ held) :
    Keeps (mutableBytes id) held post ↔ ∀ answer, post answer held :=
  safe_ask_use effect (.mutableBytes id) (fun _ => rfl) held post member

@[simp]
theorem keeps_endContentAccess {id : Nat} (post : Unit → Multiset Resource → Prop)
    (member : .object id ∈ held) :
    Keeps (endContentAccess id) held post ↔ post () held :=
  (safe_ask_use effect (.endContentAccess id) (fun _ => rfl) held post member).trans
    Unique.forall_iff

@[simp]
theorem keeps_free {start : Ptr} (post : Unit → Multiset Resource → Prop) (solid : start ≠ .null) :
    Keeps (free start) (.block start ::ₘ held) post ↔ post () held :=
  (safe_ask_release effect (.free start) (fun _ => if_neg solid) held post).trans
    Unique.forall_iff

@[simp]
theorem keeps_munmap (start : Ptr) (size : UInt64) (post : Unit → Multiset Resource → Prop) :
    Keeps (munmap start size) (.range start size ::ₘ held) post ↔ post () held :=
  (safe_ask_release effect (.munmap start size) (fun _ => rfl) held post).trans
    Unique.forall_iff

@[simp]
theorem keeps_vmDeallocate (start : Ptr) (size : UInt64)
    (post : Unit → Multiset Resource → Prop) :
    Keeps (vmDeallocate start size) (.range start size ::ₘ held) post ↔ post () held :=
  (safe_ask_release effect (.vmDeallocate start size) (fun _ => rfl) held post).trans
    Unique.forall_iff

@[simp]
theorem keeps_close (fd : Nat) (post : Unit → Multiset Resource → Prop) :
    Keeps (close fd) (.descriptor fd ::ₘ held) post ↔ post () held :=
  (safe_ask_release effect (.close fd) (fun _ => rfl) held post).trans
    Unique.forall_iff

@[simp]
theorem keeps_closeStream (id : Nat) (post : Unit → Multiset Resource → Prop) :
    Keeps (closeStream id) (.stream id ::ₘ held) post ↔ post () held :=
  (safe_ask_release effect (.closeStream id) (fun _ => rfl) held post).trans
    Unique.forall_iff

@[simp]
theorem keeps_remove (path : String) (post : Unit → Multiset Resource → Prop) :
    Keeps (remove path) (.tempFile path ::ₘ held) post ↔ post () held :=
  (safe_ask_release effect (.remove path) (fun _ => rfl) held post).trans
    Unique.forall_iff

@[simp]
theorem keeps_unlink (path : String) (post : Unit → Multiset Resource → Prop) :
    Keeps (unlink path) (.tempFile path ::ₘ held) post ↔ post () held :=
  (safe_ask_release effect (.unlink path) (fun _ => rfl) held post).trans
    Unique.forall_iff

@[simp]
theorem keeps_shmUnlink (name : String) (post : Unit → Multiset Resource → Prop) :
    Keeps (shmUnlink name) (.shmName name ::ₘ held) post ↔ post () held :=
  (safe_ask_release effect (.shmUnlink name) (fun _ => rfl) held post).trans
    Unique.forall_iff

@[simp]
theorem keeps_shmctlRemove (shmid : Nat) (post : Unit → Multiset Resource → Prop) :
    Keeps (shmctlRemove shmid) (.segment shmid ::ₘ held) post ↔ post () held :=
  (safe_ask_release effect (.shmctlRemove shmid) (fun _ => rfl) held post).trans
    Unique.forall_iff

@[simp]
theorem keeps_shmdt (start : Ptr) (post : Unit → Multiset Resource → Prop) :
    Keeps (shmdt start) (.attachment start ::ₘ held) post ↔ post () held :=
  (safe_ask_release effect (.shmdt start) (fun _ => rfl) held post).trans
    Unique.forall_iff

@[simp]
theorem keeps_waitpid (pid : Nat) (post : Unit → Multiset Resource → Prop) :
    Keeps (waitpid pid) (.child pid ::ₘ held) post ↔ post () held :=
  (safe_ask_release effect (.waitpid pid) (fun _ => rfl) held post).trans
    Unique.forall_iff

@[simp]
theorem keeps_getpid (post : Nat → Multiset Resource → Prop) :
    Keeps getpid held post ↔ ∀ pid, post pid held :=
  safe_ask_silent effect .getpid (fun _ => rfl) held post

@[simp]
theorem keeps_system (command : String) (post : Int → Multiset Resource → Prop) :
    Keeps (system command) held post ↔ ∀ status, post status held :=
  safe_ask_silent effect (.system command) (fun _ => rfl) held post

theorem Restores.keeps {action : Action Unit} (restores : Restores action)
    {post : Unit → Multiset Resource → Prop} (holds : post () held) : Keeps action held post := by
  apply (restores held).mono
  intro value after same
  rw [same]
  exact holds

end Rules

end MemoryDemo.Darwin.Calls
