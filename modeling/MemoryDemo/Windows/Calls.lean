import MemoryDemo.Library.Ledger

/-! The Win32 and library calls of the Windows allocation demos, what each acquires and
releases, and the rule of each call. Prints, metrics and reading the Enter key are left out
of the programs. Release and delete calls succeed, and so do the two calls for a name. -/

namespace MemoryDemo.Windows.Calls
open Library.CallTree Library.Ledger

/-- `CreateFileA` fails with `INVALID_HANDLE_VALUE`, `CreateFileMapping` with `NULL`. -/
inductive Handle where
  | null
  | invalid
  | opened (value : Nat)
  deriving DecidableEq, Repr

inductive Ptr where
  | null
  | address (value : Nat)
  deriving DecidableEq, Repr

/-- A name that `GetTempFileNameA` has found. -/
structure TempFileName where
  path : String
  named : path ≠ ""
  deriving DecidableEq, Repr

inductive ShareMode where
  | exclusive
  | readWrite
  deriving DecidableEq, Repr

inductive Protect where
  | pageReadOnly
  | pageReadWrite
  deriving DecidableEq, Repr

inductive ViewAccess where
  | fileMapCopy
  | fileMapAllAccess
  deriving DecidableEq, Repr

/-- What a program has to give back. -/
inductive Resource where
  | allocation (start : Ptr)
  | view (start : Ptr)
  | handle (handle : Handle)
  | stream (id : Nat)
  | tempFile (path : String)
  deriving DecidableEq, Repr

/-- Reads and writes through a pointer are the call `access`, with the number of bytes that
the loop goes over. A mapping of `INVALID_HANDLE_VALUE` is backed by the paging file. -/
inductive Call where
  | virtualAlloc (size : UInt64)
  | virtualFree (start : Ptr)
  | access (target : Resource) (bytes : UInt64)
  | getTempPath
  | getTempFileName (tempPath nameStart : String)
  | openOutput (path : String)
  | writeStream (id : Nat) (bytes : UInt64)
  | closeStream (id : Nat)
  | createFile (path : String) (share : ShareMode)
  | createFileMapping (file : Handle) (protect : Protect) (maximumSizeLow : UInt32)
      (name : Option String)
  | mapViewOfFile (mapping : Handle) (access : ViewAccess) (size : UInt64)
  | unmapViewOfFile (start : Ptr)
  | closeHandle (handle : Handle)
  | deleteFile (path : String)
  deriving Repr

/-- The answer to a call; `none` is its failure. -/
@[reducible] def Answer : Call → Type
  | .virtualAlloc _ | .openOutput _ | .createFile _ _ => Option Nat
  | .createFileMapping _ _ _ _ | .mapViewOfFile _ _ _ => Option Nat
  | .getTempPath => String
  | .getTempFileName _ _ => TempFileName
  | .virtualFree _ | .access _ _ | .writeStream _ _ | .closeStream _ => Unit
  | .unmapViewOfFile _ | .closeHandle _ | .deleteFile _ => Unit

abbrev Action (α : Type) : Type := Program Call Answer α

abbrev Step : Type := Exchange Call Answer

/-- A mapping of a file needs its handle. -/
def backing (file : Handle) : List (Event Resource) :=
  if file = .invalid then [] else [.use (.handle file)]

/-- The events of an exchange. `GetTempFileNameA` with a `uUnique` of 0 creates the file. -/
@[simp]
def effect : Step → List (Event Resource)
  | ⟨.virtualAlloc _, some address⟩ => [.acquire (.allocation (.address address))]
  | ⟨.virtualFree start, _⟩ => [.release (.allocation start)]
  | ⟨.access target _, _⟩ => [.use target]
  | ⟨.getTempFileName _ _, tempFileName⟩ => [.acquire (.tempFile tempFileName.path)]
  | ⟨.openOutput _, some id⟩ => [.acquire (.stream id)]
  | ⟨.writeStream id _, _⟩ => [.use (.stream id)]
  | ⟨.closeStream id, _⟩ => [.release (.stream id)]
  | ⟨.createFile _ _, some value⟩ => [.acquire (.handle (.opened value))]
  | ⟨.createFileMapping file _ _ _, some value⟩ =>
    backing file ++ [.acquire (.handle (.opened value))]
  | ⟨.createFileMapping file _ _ _, none⟩ => backing file
  | ⟨.mapViewOfFile mapping _ _, some address⟩ =>
    [.use (.handle mapping), .acquire (.view (.address address))]
  | ⟨.mapViewOfFile mapping _ _, none⟩ => [.use (.handle mapping)]
  | ⟨.unmapViewOfFile start, _⟩ => [.release (.view start)]
  | ⟨.closeHandle handle, _⟩ => [.release (.handle handle)]
  | ⟨.deleteFile path, _⟩ => [.release (.tempFile path)]
  | ⟨.virtualAlloc _, none⟩ | ⟨.openOutput _, none⟩ | ⟨.createFile _ _, none⟩ => []
  | ⟨.getTempPath, _⟩ => []

def pointer : Option Nat → Ptr
  | some address => .address address
  | none => .null

/-- The handle behind an answer, where a failure is the handle `failure`. -/
def handle (failure : Handle) : Option Nat → Handle
  | some value => .opened value
  | none => failure

abbrev ask (request : Call) : Action (Answer request) :=
  Program.ask request

def virtualAlloc (size : UInt64) : Action Ptr := do
  return pointer (← ask (.virtualAlloc size))

def virtualFree (start : Ptr) : Action Unit :=
  ask (.virtualFree start)

def access (target : Resource) (bytes : UInt64) : Action Unit :=
  ask (.access target bytes)

def getTempPath : Action String :=
  ask .getTempPath

def getTempFileName (tempPath nameStart : String) : Action TempFileName :=
  ask (.getTempFileName tempPath nameStart)

def openOutput (path : String) : Action (Option Nat) :=
  ask (.openOutput path)

def writeStream (id : Nat) (bytes : UInt64) : Action Unit :=
  ask (.writeStream id bytes)

def closeStream (id : Nat) : Action Unit :=
  ask (.closeStream id)

def createFile (path : String) (share : ShareMode) : Action Handle := do
  return handle .invalid (← ask (.createFile path share))

def createFileMapping (file : Handle) (protect : Protect) (maximumSizeLow : UInt32)
    (name : Option String) : Action Handle := do
  return handle .null (← ask (.createFileMapping file protect maximumSizeLow name))

def mapViewOfFile (mapping : Handle) (viewAccess : ViewAccess) (size : UInt64) : Action Ptr := do
  return pointer (← ask (.mapViewOfFile mapping viewAccess size))

def unmapViewOfFile (start : Ptr) : Action Unit :=
  ask (.unmapViewOfFile start)

def closeHandle (handle : Handle) : Action Unit :=
  ask (.closeHandle handle)

def deleteFile (path : String) : Action Unit :=
  ask (.deleteFile path)

/-- Runs of the action never touch what is not held, and end with the condition. -/
abbrev Keeps {α : Type} (action : Action α) (held : Multiset Resource)
    (post : α → Multiset Resource → Prop) : Prop :=
  Safe (holding effect) action held post

section Rules
variable {held : Multiset Resource}

@[simp]
theorem keeps_pure {α : Type} (value : α) (post : α → Multiset Resource → Prop) :
    Keeps (pure value) held post ↔ post value held :=
  safe_pure _ value held post

@[simp]
theorem keeps_bind {α β : Type} (action : Action α) (next : α → Action β)
    (post : β → Multiset Resource → Prop) :
    Keeps (action >>= next) held post ↔
      Keeps action held fun value after => Keeps (next value) after post :=
  safe_bind _ action next held post

@[simp]
theorem keeps_virtualAlloc (size : UInt64) (post : Ptr → Multiset Resource → Prop) :
    Keeps (virtualAlloc size) held post ↔
      post .null held ∧
        ∀ address, post (.address address) (.allocation (.address address) ::ₘ held) := by
  rw [virtualAlloc, keeps_bind]
  exact safe_ask_answer (holding effect) (.virtualAlloc size) (fun _ => Option.forall) rfl
    (fun _ => rfl) _

@[simp]
theorem keeps_createFile (path : String) (share : ShareMode)
    (post : Handle → Multiset Resource → Prop) :
    Keeps (createFile path share) held post ↔
      post .invalid held ∧
        ∀ value, post (.opened value) (.handle (.opened value) ::ₘ held) := by
  rw [createFile, keeps_bind]
  exact safe_ask_answer (holding effect) (.createFile path share) (fun _ => Option.forall) rfl
    (fun _ => rfl) _

@[simp]
theorem keeps_createFileMapping_paging (protect : Protect) (maximumSizeLow : UInt32)
    (name : Option String) (post : Handle → Multiset Resource → Prop) :
    Keeps (createFileMapping .invalid protect maximumSizeLow name) held post ↔
      post .null held ∧
        ∀ value, post (.opened value) (.handle (.opened value) ::ₘ held) := by
  rw [createFileMapping, keeps_bind]
  exact safe_ask_answer (holding effect) (.createFileMapping .invalid protect maximumSizeLow name)
    (fun _ => Option.forall) rfl (fun _ => rfl) _

@[simp]
theorem keeps_createFileMapping_file {file : Nat} (protect : Protect) (maximumSizeLow : UInt32)
    (name : Option String) (post : Handle → Multiset Resource → Prop)
    (member : .handle (.opened file) ∈ held) :
    Keeps (createFileMapping (.opened file) protect maximumSizeLow name) held post ↔
      post .null held ∧
        ∀ value, post (.opened value) (.handle (.opened value) ::ₘ held) := by
  rw [createFileMapping, keeps_bind]
  exact safe_ask_answer (holding effect)
    (.createFileMapping (.opened file) protect maximumSizeLow name) (fun _ => Option.forall)
    (by simp [holding, backing, replay, record, member])
    (by simp [holding, backing, replay, record, member]) _

@[simp]
theorem keeps_mapViewOfFile {mapping : Handle} (viewAccess : ViewAccess) (size : UInt64)
    (post : Ptr → Multiset Resource → Prop) (member : .handle mapping ∈ held) :
    Keeps (mapViewOfFile mapping viewAccess size) held post ↔
      post .null held ∧
        ∀ address, post (.address address) (.view (.address address) ::ₘ held) := by
  rw [mapViewOfFile, keeps_bind]
  exact safe_ask_answer (holding effect) (.mapViewOfFile mapping viewAccess size)
    (fun _ => Option.forall)
    (by simp [holding, replay, record, member]) (by simp [holding, replay, record, member]) _

@[simp]
theorem keeps_access {target : Resource} (bytes : UInt64) (post : Unit → Multiset Resource → Prop)
    (member : target ∈ held) :
    Keeps (access target bytes) held post ↔ post () held :=
  (safe_ask_use effect (.access target bytes) (fun _ => rfl) held post member).trans
    Unique.forall_iff

@[simp]
theorem keeps_writeStream {id : Nat} (bytes : UInt64) (post : Unit → Multiset Resource → Prop)
    (member : .stream id ∈ held) :
    Keeps (writeStream id bytes) held post ↔ post () held :=
  (safe_ask_use effect (.writeStream id bytes) (fun _ => rfl) held post member).trans
    Unique.forall_iff

@[simp]
theorem keeps_virtualFree (start : Ptr) (post : Unit → Multiset Resource → Prop) :
    Keeps (virtualFree start) (.allocation start ::ₘ held) post ↔ post () held :=
  (safe_ask_release effect (.virtualFree start) (fun _ => rfl) held post).trans
    Unique.forall_iff

@[simp]
theorem keeps_closeStream (id : Nat) (post : Unit → Multiset Resource → Prop) :
    Keeps (closeStream id) (.stream id ::ₘ held) post ↔ post () held :=
  (safe_ask_release effect (.closeStream id) (fun _ => rfl) held post).trans
    Unique.forall_iff

@[simp]
theorem keeps_unmapViewOfFile (start : Ptr) (post : Unit → Multiset Resource → Prop) :
    Keeps (unmapViewOfFile start) (.view start ::ₘ held) post ↔ post () held :=
  (safe_ask_release effect (.unmapViewOfFile start) (fun _ => rfl) held post).trans
    Unique.forall_iff

@[simp]
theorem keeps_closeHandle (handle : Handle) (post : Unit → Multiset Resource → Prop) :
    Keeps (closeHandle handle) (.handle handle ::ₘ held) post ↔ post () held :=
  (safe_ask_release effect (.closeHandle handle) (fun _ => rfl) held post).trans
    Unique.forall_iff

@[simp]
theorem keeps_deleteFile (path : String) (post : Unit → Multiset Resource → Prop) :
    Keeps (deleteFile path) (.tempFile path ::ₘ held) post ↔ post () held :=
  (safe_ask_release effect (.deleteFile path) (fun _ => rfl) held post).trans
    Unique.forall_iff

end Rules

end MemoryDemo.Windows.Calls
