import MemoryDemo.Darwin.Calls
import MemoryDemo.Darwin.LibrarySource

/-! The demo of `macos/process/shared_library_demo.cpp` that generates, compiles and loads a
library, with the calls it makes. Prints, sleeps and reading the Enter key are left out.
Making and removing the directory succeed, and so do the calls that close or wait. -/

namespace MemoryDemo.Darwin.SharedLibrary
open Library.CallTree Library.Ledger
open Calls (Fork)
open LibrarySource (librarySource)

/-- What the demo has to give back. -/
inductive Resource where
  | directory (path : String)
  | stream (id : Nat)
  | library (handle : Nat)
  | child (pid : Nat)
  deriving DecidableEq, Repr

/-- `makeDirectory`, `removeDirectory` and `compile` are calls of `system`. The source text
is written by one call, `writeSource`. -/
inductive Call where
  | getpid
  | makeDirectory (path : String)
  | removeDirectory (path : String)
  | openOutput (path : String)
  | writeSource (id : Nat) (source : List Char)
  | closeStream (id : Nat)
  | compile (output source : String)
  | dlopen (path : String)
  | dlsym (handle : Nat) (name : String)
  | testLargeLib (handle : Nat)
  | dlclose (handle : Nat)
  | fork
  | waitpid (pid : Nat)
  deriving Repr

/-- The answer to a call; `none` and `false` are its failures. -/
@[reducible] def Answer : Call → Type
  | .getpid => Nat
  | .openOutput _ | .dlopen _ => Option Nat
  | .compile _ _ | .testLargeLib _ => Int
  | .dlsym _ _ => Bool
  | .fork => Fork
  | .makeDirectory _ | .removeDirectory _ | .writeSource _ _ | .closeStream _ => Unit
  | .dlclose _ | .waitpid _ => Unit

abbrev Action (α : Type) : Type := Program Call Answer α

abbrev Step : Type := Exchange Call Answer

/-- The events of an exchange. Files inside of a directory go with it. -/
@[simp]
def effect : Step → List (Event Resource)
  | ⟨.makeDirectory path, _⟩ => [.acquire (.directory path)]
  | ⟨.removeDirectory path, _⟩ => [.release (.directory path)]
  | ⟨.openOutput _, some id⟩ => [.acquire (.stream id)]
  | ⟨.writeSource id _, _⟩ => [.use (.stream id)]
  | ⟨.closeStream id, _⟩ => [.release (.stream id)]
  | ⟨.dlopen _, some handle⟩ => [.acquire (.library handle)]
  | ⟨.dlsym handle _, _⟩ => [.use (.library handle)]
  | ⟨.testLargeLib handle, _⟩ => [.use (.library handle)]
  | ⟨.dlclose handle, _⟩ => [.release (.library handle)]
  | ⟨.fork, .parent pid⟩ => [.acquire (.child pid)]
  | ⟨.waitpid pid, _⟩ => [.release (.child pid)]
  | ⟨.openOutput _, none⟩ | ⟨.dlopen _, none⟩ | ⟨.fork, .failed⟩ | ⟨.fork, .child⟩ => []
  | ⟨.getpid, _⟩ | ⟨.compile _ _, _⟩ => []

abbrev ask (request : Call) : Action (Answer request) :=
  Program.ask request

/-- The path that the functions put together from `parent_pid`. -/
def libDir (parentPid : Nat) : String :=
  "/tmp/shared_lib_demo_" ++ toString parentPid

/-- The part of `create_large_shared_library` behind the opening of the source file. -/
def compileLibrary (sizeMb : UInt64) (parentPid file : Nat) : Action Bool := do
  ask (.writeSource file (librarySource sizeMb))
  ask (.closeStream file)
  let result : Int ← ask (.compile (libDir parentPid ++ "/liblarge.dylib")
    (libDir parentPid ++ "/large_lib.cpp"))
  if result ≠ 0 then
    return false
  return true

/-- Without the call of `getpid` for `parent_pid`. -/
def createLargeSharedLibrary (sizeMb : UInt64) (parentPid : Nat) : Action Bool := do
  ask (.makeDirectory (libDir parentPid))
  let opened : Option Nat ← ask (.openOutput (libDir parentPid ++ "/large_lib.cpp"))
  match opened with
  | none => return false
  | some file => compileLibrary sizeMb parentPid file

def loadAndTestLibrary (parentPid : Nat) : Action (Option Nat) := do
  let opened : Option Nat ← ask (.dlopen (libDir parentPid ++ "/liblarge.dylib"))
  match opened with
  | none => return none
  | some handle =>
    if (← ask (.dlsym handle "test_large_lib")) = false then
      ask (.dlclose handle)
      return none
    let _ ← ask (.testLargeLib handle)
    return some handle

def cleanupLibraryFiles (parentPid : Nat) : Action Unit :=
  ask (.removeDirectory (libDir parentPid))

/-- What a child does. -/
def child (parentPid : Nat) : Action (List Nat) := do
  match ← loadAndTestLibrary parentPid with
  | none => .halt
  | some childHandle => do
    ask (.dlclose childHandle)
    .halt

/-- The loop that forks the children which are left to fork, behind those it has. -/
def forkChildren (parentPid : Nat) : Nat → List Nat → Action (List Nat)
  | 0, children => return children
  | left + 1, children => do
    match ← ask .fork with
    | .failed => return children
    | .child => child parentPid
    | .parent pid => forkChildren parentPid left (children ++ [pid])

def waitForChildren : List Nat → Action Unit
  | [] => return ()
  | pid :: children => do
    ask (.waitpid pid)
    waitForChildren children

/-- `num_children`. -/
def numChildren : Nat := 3

/-- The part of the demo behind the creation of the library. -/
def shareLibrary (parentPid : Nat) : Action Unit := do
  match ← loadAndTestLibrary parentPid with
  | none => cleanupLibraryFiles parentPid
  | some parentHandle => do
    let children ← forkChildren parentPid numChildren []
    waitForChildren children
    ask (.dlclose parentHandle)
    cleanupLibraryFiles parentPid

def demoSharedLibraryCodeSegment (sizeMb : UInt64) : Action Unit := do
  let parentPid : Nat ← ask .getpid
  if (← createLargeSharedLibrary sizeMb parentPid) = false then
    return ()
  shareLibrary parentPid

/-- Runs of the action never touch what is not held, and end with the condition. -/
abbrev Keeps {α : Type} (action : Action α) (held : Multiset Resource)
    (post : α → Multiset Resource → Prop) : Prop :=
  Safe (holding effect) action held post

section Rules
variable {held : Multiset Resource}

@[simp]
theorem keeps_bind {α β : Type} (action : Action α) (next : α → Action β)
    (post : β → Multiset Resource → Prop) :
    Keeps (action >>= next) held post ↔
      Keeps action held fun value after => Keeps (next value) after post :=
  safe_bind _ action next held post

theorem keeps_dlopen (path : String) (post : Option Nat → Multiset Resource → Prop) :
    Keeps (ask (.dlopen path)) held post ↔
      post none held ∧ ∀ handle, post (some handle) (.library handle ::ₘ held) :=
  safe_ask_answer (holding effect) (.dlopen path) (fun _ => Option.forall) rfl (fun _ => rfl) post

theorem keeps_dlsym {handle : Nat} (name : String) (post : Bool → Multiset Resource → Prop)
    (member : .library handle ∈ held) :
    Keeps (ask (.dlsym handle name)) held post ↔ ∀ found, post found held :=
  safe_ask_use effect (.dlsym handle name) (fun _ => rfl) held post member

theorem keeps_testLargeLib {handle : Nat} (post : Int → Multiset Resource → Prop)
    (member : .library handle ∈ held) :
    Keeps (ask (.testLargeLib handle)) held post ↔ ∀ result, post result held :=
  safe_ask_use effect (.testLargeLib handle) (fun _ => rfl) held post member

theorem keeps_dlclose (handle : Nat) (post : Unit → Multiset Resource → Prop) :
    Keeps (ask (.dlclose handle)) (.library handle ::ₘ held) post ↔ post () held :=
  (safe_ask_release effect (.dlclose handle) (fun _ => rfl) held post).trans Unique.forall_iff

theorem keeps_waitpid (pid : Nat) (post : Unit → Multiset Resource → Prop) :
    Keeps (ask (.waitpid pid)) (.child pid ::ₘ held) post ↔ post () held :=
  (safe_ask_release effect (.waitpid pid) (fun _ => rfl) held post).trans Unique.forall_iff

theorem keeps_removeDirectory (path : String) (post : Unit → Multiset Resource → Prop) :
    Keeps (ask (.removeDirectory path)) (.directory path ::ₘ held) post ↔ post () held :=
  (safe_ask_release effect (.removeDirectory path) (fun _ => rfl) held post).trans
    Unique.forall_iff

theorem keeps_fork (post : Fork → Multiset Resource → Prop) :
    Keeps (ask .fork) held post ↔
      post .failed held ∧ post .child held ∧ ∀ pid, post (.parent pid) (.child pid ::ₘ held) := by
  simp [safe_ask, Calls.forall_fork, holding, effect, replay, record]

theorem loadAndTestLibrary_keeps (parentPid : Nat) {post : Option Nat → Multiset Resource → Prop}
    (failed : post none held) (loaded : ∀ handle, post (some handle) (.library handle ::ₘ held)) :
    Keeps (loadAndTestLibrary parentPid) held post := by
  unfold loadAndTestLibrary
  rw [keeps_bind, keeps_dlopen]
  refine ⟨failed, fun handle => ?_⟩
  rw [keeps_bind, keeps_dlsym _ _ (Multiset.mem_cons_self _ _)]
  intro found
  cases found with
  | false =>
    rw [if_pos rfl, keeps_bind, keeps_dlclose]
    exact failed
  | true =>
    rw [if_neg nofun, keeps_bind, keeps_testLargeLib _ (Multiset.mem_cons_self _ _)]
    exact fun result => loaded handle

/-- A child touches nothing that it does not hold, and never comes back. -/
theorem child_keeps (parentPid : Nat) (post : List Nat → Multiset Resource → Prop) :
    Keeps (child parentPid) held post := by
  unfold child
  rw [keeps_bind]
  apply loadAndTestLibrary_keeps
  · trivial
  · intro handle
    rw [keeps_bind, keeps_dlclose]
    trivial

end Rules

/-- The children that a process has forked. -/
def forked (children : List Nat) : Multiset Resource :=
  (children.map Resource.child : List Resource)

theorem forked_nil : forked [] = 0 := rfl

theorem forked_cons (pid : Nat) (children : List Nat) :
    forked (pid :: children) = .child pid ::ₘ forked children := rfl

theorem forked_append (children : List Nat) (pid : Nat) :
    forked (children ++ [pid]) = .child pid ::ₘ forked children := by
  rw [forked, List.map_append, ← Multiset.coe_add, Multiset.add_comm]
  rfl

/-- The loop holds the children that it returns, also where a fork ends it. -/
theorem forkChildren_keeps (parentPid left : Nat) (children : List Nat)
    (held : Multiset Resource) :
    Keeps (forkChildren parentPid left children) (forked children + held)
      fun result after => after = forked result + held := by
  induction left generalizing children with
  | zero => exact rfl
  | succ left ih =>
    unfold forkChildren
    rw [keeps_bind, keeps_fork]
    refine ⟨rfl, child_keeps parentPid _, fun pid => ?_⟩
    have one := ih (children ++ [pid])
    rw [forked_append, Multiset.cons_add] at one
    exact one

theorem waitForChildren_keeps (children : List Nat) (held : Multiset Resource) :
    Keeps (waitForChildren children) (forked children + held) fun _ after => after = held := by
  induction children with
  | nil => exact Multiset.zero_add held
  | cons pid children ih =>
    unfold waitForChildren
    rw [forked_cons, Multiset.cons_add, keeps_bind, keeps_waitpid]
    exact ih

/-- Behind the creation of the library every path ends with the removal of its directory. -/
theorem shareLibrary_keeps (parentPid : Nat) (held : Multiset Resource) :
    Keeps (shareLibrary parentPid) (.directory (libDir parentPid) ::ₘ held)
      fun _ after => after = held := by
  unfold shareLibrary
  rw [keeps_bind]
  apply loadAndTestLibrary_keeps
  · exact (keeps_removeDirectory _ _).mpr rfl
  · intro handle
    rw [keeps_bind]
    have forks := forkChildren_keeps parentPid numChildren []
      (.library handle ::ₘ .directory (libDir parentPid) ::ₘ held)
    rw [forked_nil, Multiset.zero_add] at forks
    apply forks.mono
    rintro children after rfl
    rw [keeps_bind]
    apply (waitForChildren_keeps children _).mono
    rintro value after rfl
    rw [keeps_bind, keeps_dlclose]
    exact (keeps_removeDirectory _ _).mpr rfl

/-- What the demo does once the compiler has ended. -/
def afterCompiling (parentPid : Nat) (result : Int) : Action Unit :=
  if result = 0 then shareLibrary parentPid else return ()

/-- What the demo does once the opening of the source file is answered. -/
def afterOpening (sizeMb : UInt64) (parentPid : Nat) : Option Nat → Action Unit
  | none => return ()
  | some file =>
    ask (.writeSource file (librarySource sizeMb)) >>= fun _ =>
      ask (.closeStream file) >>= fun _ =>
        ask (.compile (libDir parentPid ++ "/liblarge.dylib")
          (libDir parentPid ++ "/large_lib.cpp")) >>= afterCompiling parentPid

theorem demo_eq (sizeMb : UInt64) :
    demoSharedLibraryCodeSegment sizeMb =
      ask .getpid >>= fun parentPid =>
        ask (.makeDirectory (libDir parentPid)) >>= fun _ =>
          ask (.openOutput (libDir parentPid ++ "/large_lib.cpp")) >>=
            afterOpening sizeMb parentPid := by
  unfold demoSharedLibraryCodeSegment createLargeSharedLibrary compileLibrary
  congr 1
  funext parentPid
  rw [Program.bind_assoc]
  congr 1
  funext _
  rw [Program.bind_assoc]
  congr 1
  funext opened
  cases opened with
  | none => rfl
  | some file =>
    simp only [afterOpening, Program.bind_assoc]
    congr 1
    funext _
    congr 1
    funext _
    congr 1
    funext result
    unfold afterCompiling
    by_cases success : result = 0
    · rw [if_pos success, if_neg (not_not.mpr success)]
      rfl
    · rw [if_neg success, if_pos success]
      rfl

/-- The exchanges with which the demo begins. -/
def making (parentPid : Nat) : List Step :=
  [⟨.getpid, parentPid⟩, ⟨.makeDirectory (libDir parentPid), ()⟩]

def opening (parentPid : Nat) (opened : Option Nat) : List Step :=
  making parentPid ++ [⟨.openOutput (libDir parentPid ++ "/large_lib.cpp"), opened⟩]

/-- The exchanges up to the end of the source file. -/
def writing (sizeMb : UInt64) (parentPid file : Nat) : List Step :=
  opening parentPid (some file) ++
    [⟨.writeSource file (librarySource sizeMb), ()⟩, ⟨.closeStream file, ()⟩]

def compiling (sizeMb : UInt64) (parentPid file : Nat) (result : Int) : List Step :=
  writing sizeMb parentPid file ++
    [⟨.compile (libDir parentPid ++ "/liblarge.dylib") (libDir parentPid ++ "/large_lib.cpp"),
      result⟩]

def pidAnswer (environment : Environment Call Answer) : Nat :=
  environment [] .getpid

/-- The answer to the opening of the source file. -/
def sourceAnswer (environment : Environment Call Answer) : Option Nat :=
  environment (making (pidAnswer environment))
    (.openOutput (libDir (pidAnswer environment) ++ "/large_lib.cpp"))

/-- The exit status of the compiler. -/
def compileAnswer (environment : Environment Call Answer) (sizeMb : UInt64) (file : Nat) : Int :=
  environment (writing sizeMb (pidAnswer environment) file)
    (.compile (libDir (pidAnswer environment) ++ "/liblarge.dylib")
      (libDir (pidAnswer environment) ++ "/large_lib.cpp"))

/-- The library is there to be loaded. -/
def Created (environment : Environment Call Answer) (sizeMb : UInt64) : Prop :=
  ∃ file, sourceAnswer environment = some file ∧ compileAnswer environment sizeMb file = 0

/-- No directory that was made is left, and no child that was forked is unwaited for. -/
def CleanedUp (log : List Step) : Prop :=
  ∃ final, replay 0 (log.flatMap effect) = some final ∧
    (∀ path, .directory path ∉ final) ∧ ∀ pid, .child pid ∉ final

section
variable (sizeMb : UInt64) (environment : Environment Call Answer)

/-- The run from the opening of the source file on. -/
theorem run_opening :
    run environment [] (demoSharedLibraryCodeSegment sizeMb) =
      ⟨opening (pidAnswer environment) (sourceAnswer environment) ++
          (run environment (opening (pidAnswer environment) (sourceAnswer environment))
            (afterOpening sizeMb (pidAnswer environment) (sourceAnswer environment))).log,
        (run environment (opening (pidAnswer environment) (sourceAnswer environment))
          (afterOpening sizeMb (pidAnswer environment) (sourceAnswer environment))).result⟩ := by
  rw [demo_eq]
  rfl

/-- The run from the end of the compiler on. -/
theorem run_compiling {file : Nat} (opened : sourceAnswer environment = some file) :
    run environment [] (demoSharedLibraryCodeSegment sizeMb) =
      ⟨compiling sizeMb (pidAnswer environment) file (compileAnswer environment sizeMb file) ++
          (run environment
            (compiling sizeMb (pidAnswer environment) file (compileAnswer environment sizeMb file))
            (afterCompiling (pidAnswer environment)
              (compileAnswer environment sizeMb file))).log,
        (run environment
          (compiling sizeMb (pidAnswer environment) file (compileAnswer environment sizeMb file))
          (afterCompiling (pidAnswer environment)
            (compileAnswer environment sizeMb file))).result⟩ := by
  rw [run_opening, opened]
  rfl

/-- Without a library all that is held in the end is the directory. -/
theorem replay_directory_not_cleanedUp (path : String) {log : List Step}
    (left : replay 0 (log.flatMap effect) = some {.directory path}) : ¬ CleanedUp log := by
  rintro ⟨final, replayed, directories, -⟩
  rw [left] at replayed
  cases replayed
  exact directories path (Multiset.mem_singleton_self _)

theorem replay_compiling (parentPid file : Nat) (result : Int) :
    replay 0 ((compiling sizeMb parentPid file result).flatMap effect) =
      some (.directory (libDir parentPid) ::ₘ 0) := by
  simp [compiling, writing, opening, making, replay, record]

/-- A run that returns has cleaned up if and only if the source file was opened and the
compiler succeeded; else the directory is left. -/
theorem sharedLibrary_cleanedUp_iff
    (returned : (run environment [] (demoSharedLibraryCodeSegment sizeMb)).result = some ()) :
    CleanedUp (run environment [] (demoSharedLibraryCodeSegment sizeMb)).log ↔
      Created environment sizeMb := by
  cases opened : sourceAnswer environment with
  | none =>
    have left : ¬ CleanedUp (run environment [] (demoSharedLibraryCodeSegment sizeMb)).log := by
      rw [run_opening, opened]
      exact replay_directory_not_cleanedUp (libDir (pidAnswer environment)) rfl
    simp only [left, Created, opened, reduceCtorEq, false_and, exists_false]
  | some file =>
    have created : Created environment sizeMb ↔ compileAnswer environment sizeMb file = 0 := by
      simp only [Created, opened, Option.some.injEq, exists_eq_left']
    rw [created]
    rw [run_compiling sizeMb environment opened] at returned ⊢
    by_cases success : compileAnswer environment sizeMb file = 0
    · rw [success, afterCompiling, if_pos rfl] at returned ⊢
      obtain ⟨final, replayed, nothing⟩ :=
        replay_of_safe (shareLibrary_keeps (pidAnswer environment) 0) environment _ returned
      refine iff_of_true ⟨final, ?_, ?_⟩ rfl
      · rw [List.flatMap_append, replay_append, replay_compiling]
        exact replayed
      · rw [nothing]
        exact ⟨fun path => Multiset.notMem_zero _, fun pid => Multiset.notMem_zero _⟩
    · rw [afterCompiling, if_neg success]
      refine iff_of_false ?_ success
      apply replay_directory_not_cleanedUp (libDir (pidAnswer environment))
      rw [List.flatMap_append, replay_append, replay_compiling]
      rfl

end

/-- Every call fails. -/
def refusing : Environment Call Answer := fun _ request =>
  match request with
  | .getpid => 4321
  | .openOutput _ | .dlopen _ => none
  | .compile _ _ | .testLargeLib _ => 1
  | .dlsym _ _ => false
  | .fork => .failed
  | .makeDirectory _ | .removeDirectory _ | .writeSource _ _ | .closeStream _ => ()
  | .dlclose _ | .waitpid _ => ()

/-- The source file opens, and the compiler fails. -/
def withoutCompiler : Environment Call Answer := fun past request =>
  match request with
  | .openOutput _ => some 3
  | request => refusing past request

/-- The library is there, but does not load. -/
def withoutLoader : Environment Call Answer := fun past request =>
  match request with
  | .openOutput _ => some 3
  | .compile _ _ => 0
  | request => refusing past request

theorem sharedLibrary_cleanedUp_iff_withoutLoader :
    (run withoutLoader [] (demoSharedLibraryCodeSegment 50)).result = some () ∧
      CleanedUp (run withoutLoader [] (demoSharedLibraryCodeSegment 50)).log :=
  ⟨rfl, (sharedLibrary_cleanedUp_iff 50 withoutLoader rfl).mpr ⟨3, rfl, rfl⟩⟩

theorem sharedLibrary_withoutCompiler_leaks :
    (run withoutCompiler [] (demoSharedLibraryCodeSegment 50)).result = some () ∧
      ¬ CleanedUp (run withoutCompiler [] (demoSharedLibraryCodeSegment 50)).log := by
  refine ⟨rfl, ?_⟩
  rw [run_compiling 50 withoutCompiler rfl]
  apply replay_directory_not_cleanedUp (libDir 4321)
  rw [List.flatMap_append, replay_append, replay_compiling]
  rfl

end MemoryDemo.Darwin.SharedLibrary
