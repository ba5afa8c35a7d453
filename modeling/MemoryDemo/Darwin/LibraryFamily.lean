import MemoryDemo.Darwin.DemoFamilies
import MemoryDemo.Darwin.SharedLibrary

/-! The demo of `macos/process/shared_library_demo.cpp` with its children, as processes that run
side by side over the files they all see. -/

namespace MemoryDemo.Darwin.LibraryFamily
open Library.CallTree Library.Processes SharedLibrary Relation
open Calls (Fork)
open DemoFamilies (outcome)
open LibrarySource (librarySource)

def kind : (request : Call) → Kind (Answer request)
  | .fork => .fork outcome
  | .waitpid pid => .wait pid
  | _ => .plain

/-- What `rm -rf` of a path removes. -/
def Under (path file : String) : Prop :=
  file = path ∨ (path ++ "/").toList <+: file.toList

instance (path file : String) : Decidable (Under path file) :=
  inferInstanceAs (Decidable (_ ∨ _))

/-- The files and directories that the calls of the demo make and remove. A compiler that
fails makes nothing. -/
def record (files : List String) : Step → List String
  | ⟨.makeDirectory path, _⟩ => path :: files
  | ⟨.openOutput path, some _⟩ => path :: files
  | ⟨.compile output _, result⟩ => if result = 0 then output :: files else files
  | ⟨.removeDirectory path, _⟩ => files.filter fun file => ¬ Under path file
  | _ => files

def system : System Call Answer (List String) where
  kind := kind
  record := record
  answers request := ⟨refusing [] request⟩

/-- A library is there to be loaded, a source to be compiled, and a directory to be removed. -/
def needs : Call → List String → Bool
  | .dlopen path, files => path ∈ files
  | .compile _ source, files => source ∈ files
  | .removeDirectory path, files => path ∈ files
  | _, _ => true

/-- The calls of a child. -/
def childCall : Call → Bool
  | .dlopen _ | .dlsym _ _ | .testLargeLib _ | .dlclose _ => true
  | _ => false

theorem childCall_leaves (request : Call) (calls : childCall request = true)
    (files : List String) (answer : Answer request) :
    record files ⟨request, answer⟩ = files := by
  cases request <;> first | rfl | cases calls

def discipline : Discipline system where
  limit := numChildren
  needs := needs
  beside := childCall
  leaves request calls files answer := childCall_leaves request calls files answer

/-- The action keeps to the discipline and ends with the condition. -/
abbrev Joins {α : Type} (action : Action α) (now : Role × List String)
    (post : α → Role × List String → Prop) : Prop :=
  Safe (joining discipline) action now post

def forking : Forking system where
  fork := .fork
  outcome := outcome
  wait := .waitpid
  forks := rfl
  waits _ := rfl
  only := by
    intro request pid waits
    cases request <;> cases waits
    rfl

section Rules
variable {α β : Type} {files : List String}

theorem joins_bind (action : Action α) (next : α → Action β) (now : Role × List String)
    (post : β → Role × List String → Prop) :
    Joins (action >>= next) now post ↔
      Joins action now fun value after => Joins (next value) after post :=
  safe_bind _ action next now post

/-- A call of a parent without children. -/
theorem joins_ask {request : Call} {post : Answer request → Role × List String → Prop}
    (plain : system.kind request = .plain) (found : needs request files = true)
    (rest : ∀ answer, post answer (.parent 0, record files ⟨request, answer⟩)) :
    Joins (ask request) (.parent 0, files) post :=
  (safe_plain discipline plain).mpr ⟨rfl, found, rest⟩

/-- A parent without children, or a child. -/
inductive Alone (files : List String) : Role × List String → Prop where
  | parent : Alone files (.parent 0, files)
  | child : Alone files (.child, files)

/-- A call that a child makes too. -/
theorem joins_beside {request : Call} {now : Role × List String}
    {post : Answer request → Role × List String → Prop} (alone : Alone files now)
    (calls : childCall request = true) (plain : system.kind request = .plain)
    (found : needs request files = true) (rest : ∀ answer, post answer now) :
    Joins (ask request) now post := by
  cases alone with
  | parent =>
    apply joins_ask plain found
    intro answer
    rw [childCall_leaves request calls]
    exact rest answer
  | child => exact (safe_child_plain discipline plain).mpr ⟨⟨calls, found⟩, rest⟩

end Rules

/-- The library of the process with the id. -/
def libPath (parentPid : Nat) : String :=
  libDir parentPid ++ "/liblarge.dylib"

def sourcePath (parentPid : Nat) : String :=
  libDir parentPid ++ "/large_lib.cpp"

theorem under_self (path : String) : Under path path := Or.inl rfl

theorem under_inside (path name : String) : Under path (path ++ "/" ++ name) := by
  apply Or.inr
  have joined : (path ++ "/" ++ name).toList = (path ++ "/").toList ++ name.toList :=
    String.toList_append
  rw [joined]
  exact List.prefix_append _ _

section
variable {parentPid : Nat} {files : List String}

theorem loadAndTestLibrary_joins {now : Role × List String} (alone : Alone files now)
    (there : libPath parentPid ∈ files) {post : Option Nat → Role × List String → Prop}
    (rest : ∀ handle, post handle now) : Joins (loadAndTestLibrary parentPid) now post := by
  have found : needs (.dlopen (libPath parentPid)) files = true := decide_eq_true there
  apply (joins_bind _ _ _ _).mpr
  apply joins_beside alone rfl rfl found
  intro opened
  cases opened with
  | none => exact rest none
  | some handle =>
    apply (joins_bind _ _ _ _).mpr
    apply joins_beside alone rfl rfl rfl
    intro found
    split
    next missing =>
      apply (joins_bind _ _ _ _).mpr
      exact joins_beside alone rfl rfl rfl fun _ => rest none
    next =>
      apply (joins_bind _ _ _ _).mpr
      exact joins_beside alone rfl rfl rfl fun _ => rest (some handle)

theorem child_joins (there : libPath parentPid ∈ files)
    (post : List Nat → Role × List String → Prop) :
    Joins (child parentPid) (.child, files) post := by
  apply (joins_bind _ _ _ _).mpr
  apply loadAndTestLibrary_joins .child there
  intro loaded
  cases loaded with
  | none => trivial
  | some handle =>
    apply (joins_bind _ _ _ _).mpr
    exact joins_beside .child rfl rfl rfl fun _ => trivial

/-- The loop knows the children it has, and leaves room for those it is still to fork. -/
theorem forkChildren_joins (there : libPath parentPid ∈ files) (left : Nat)
    (children : List Nat) (room : children.length + left ≤ numChildren) :
    Joins (forkChildren parentPid left children) (.parent children, files)
      fun result now => now = (.parent result, files) := by
  induction left generalizing children with
  | zero => exact rfl
  | succ left ih =>
    refine (safe_fork discipline forking.forks).mpr ⟨?_, rfl, child_joins there _, fun pid => ?_⟩
    · rw [Multiset.coe_card]
      exact Nat.lt_of_lt_of_le (Nat.lt_add_of_pos_right (Nat.succ_pos left)) room
    · have grown : ((children ++ [pid] : List Nat) : Multiset Nat) = pid ::ₘ children := by
        rw [Multiset.cons_coe, Multiset.coe_eq_coe]
        exact List.perm_append_singleton pid children
      rw [← grown]
      apply ih
      rw [List.length_append, List.length_singleton]
      omega

theorem waitForChildren_joins (children : List Nat) :
    Joins (waitForChildren children) (.parent children, files)
      fun _ now => now = (.parent 0, files) := by
  induction children with
  | nil => exact rfl
  | cons pid children ih =>
    refine (safe_wait discipline (forking.waits pid)).mpr ⟨List.mem_cons_self, fun _ => ?_⟩
    rw [← Multiset.cons_coe, Multiset.erase_cons_head]
    exact ih

/-- What may be left of the library once the demo has come back: at most its directory and its
source. -/
def NoLibrary (files : List String) : Prop :=
  ∃ parentPid, ∀ file ∈ files, file = libDir parentPid ∨ file = sourcePath parentPid

theorem under_libPath (parentPid : Nat) : Under (libDir parentPid) (libPath parentPid) := by
  have inside := under_inside (libDir parentPid) "liblarge.dylib"
  rw [String.append_assoc] at inside
  exact inside

theorem under_sourcePath (parentPid : Nat) : Under (libDir parentPid) (sourcePath parentPid) := by
  have inside := under_inside (libDir parentPid) "large_lib.cpp"
  rw [String.append_assoc] at inside
  exact inside

/-- The files once the library is there. -/
def created (parentPid : Nat) : List String :=
  [libPath parentPid, sourcePath parentPid, libDir parentPid]

theorem cleanupLibraryFiles_joins (parentPid : Nat) :
    Joins (cleanupLibraryFiles parentPid) (.parent 0, created parentPid)
      fun _ now => now = (.parent 0, []) := by
  have there : needs (.removeDirectory (libDir parentPid)) (created parentPid) = true :=
    decide_eq_true (by simp [created])
  apply joins_ask rfl there
  intro _
  have removed : record (created parentPid) ⟨.removeDirectory (libDir parentPid), ()⟩ = [] := by
    simp [record, created, under_self, under_libPath, under_sourcePath]
  exact congrArg _ removed

/-- The library stays until every child has ended, and goes with its directory. -/
theorem shareLibrary_joins (parentPid : Nat) :
    Joins (shareLibrary parentPid) (.parent 0, created parentPid)
      fun _ now => now = (.parent 0, []) := by
  have there : libPath parentPid ∈ created parentPid := List.mem_cons_self
  apply (joins_bind _ _ _ _).mpr
  apply loadAndTestLibrary_joins .parent there
  intro loaded
  cases loaded with
  | none => exact cleanupLibraryFiles_joins parentPid
  | some parentHandle =>
    apply (joins_bind _ _ _ _).mpr
    apply (forkChildren_joins there numChildren [] (Nat.le_of_eq (Nat.zero_add _))).mono
    rintro children now rfl
    apply (joins_bind _ _ _ _).mpr
    apply (waitForChildren_joins children).mono
    rintro value now rfl
    apply (joins_bind _ _ _ _).mpr
    exact joins_beside .parent rfl rfl rfl fun _ => cleanupLibraryFiles_joins parentPid

theorem afterCompiling_joins (parentPid : Nat) (result : Int) :
    Joins (afterCompiling parentPid result)
      (.parent 0, record [sourcePath parentPid, libDir parentPid]
        ⟨.compile (libPath parentPid) (sourcePath parentPid), result⟩)
      (atEnd fun _ files => NoLibrary files) := by
  unfold afterCompiling
  by_cases success : result = 0
  · rw [if_pos success, success]
    apply (shareLibrary_joins parentPid).mono
    rintro value now rfl
    exact ⟨rfl, parentPid, nofun⟩
  · rw [if_neg success]
    refine ⟨rfl, parentPid, fun file member => ?_⟩
    simpa [record, success, or_comm] using member

theorem demo_joins (sizeMb : UInt64) :
    Joins (demoSharedLibraryCodeSegment sizeMb) (.parent 0, [])
      (atEnd fun _ files => NoLibrary files) := by
  rw [demo_eq]
  apply (joins_bind _ _ _ _).mpr
  apply joins_ask rfl rfl
  intro parentPid
  apply (joins_bind _ _ _ _).mpr
  apply joins_ask rfl rfl
  intro _
  apply (joins_bind _ _ _ _).mpr
  apply joins_ask rfl rfl
  intro opened
  cases opened with
  | none => exact ⟨rfl, parentPid, fun file member => Or.inl (List.mem_singleton.mp member)⟩
  | some file =>
    have source : needs (.compile (libPath parentPid) (sourcePath parentPid))
        [sourcePath parentPid, libDir parentPid] = true :=
      decide_eq_true List.mem_cons_self
    apply (joins_bind _ _ _ _).mpr
    apply joins_ask rfl rfl
    intro _
    apply (joins_bind _ _ _ _).mpr
    apply joins_ask rfl rfl
    intro _
    apply (joins_bind _ _ _ _).mpr
    apply joins_ask rfl source
    exact afterCompiling_joins parentPid

end

section Stays
variable (parentPid : Nat)

theorem stays_call {α : Type} (request : Call) {next : Answer request → Action α}
    (rest : ∀ answer, Stays system (next answer)) : Stays system (ask request >>= next) :=
  fun answer _ => rest answer

theorem loadAndTestLibrary_stays : Stays system (loadAndTestLibrary parentPid) := by
  apply stays_call
  intro opened
  cases opened with
  | none => trivial
  | some handle =>
    apply stays_call
    intro found
    split
    next missing => exact stays_call _ fun _ => trivial
    next => exact stays_call _ fun _ => trivial

/-- Only a child leaves the loop by the end of its process. -/
theorem forkChildren_stays (left : Nat) (children : List Nat) :
    Stays system (forkChildren parentPid left children) := by
  induction left generalizing children with
  | zero => trivial
  | succ left ih =>
    intro forked notChild
    cases forked with
    | failed => trivial
    | child => exact absurd rfl notChild
    | parent pid => exact ih (children ++ [pid])

theorem waitForChildren_stays (children : List Nat) : Stays system (waitForChildren children) := by
  induction children with
  | nil => trivial
  | cons pid children ih => exact stays_call _ fun _ => ih

theorem shareLibrary_stays : Stays system (shareLibrary parentPid) := by
  apply (loadAndTestLibrary_stays parentPid).bind
  intro loaded
  cases loaded with
  | none => exact fun _ _ => trivial
  | some parentHandle =>
    apply (forkChildren_stays parentPid numChildren []).bind
    intro children
    exact (waitForChildren_stays children).bind fun _ => stays_call _ fun _ _ _ => trivial

theorem demo_stays (sizeMb : UInt64) : Stays system (demoSharedLibraryCodeSegment sizeMb) := by
  rw [demo_eq]
  apply stays_call
  intro parentPid
  apply stays_call
  intro _
  apply stays_call
  intro opened
  cases opened with
  | none => trivial
  | some file =>
    apply stays_call
    intro _
    apply stays_call
    intro _
    apply stays_call
    intro result
    unfold afterCompiling
    split
    next success => exact shareLibrary_stays parentPid
    next => trivial

end Stays

/-- The processes before the demo, without any of its files. -/
def start (sizeMb : UInt64) : Family Call Answer Unit (List String) :=
  ⟨[], demoSharedLibraryCodeSegment sizeMb, []⟩

/-- What is reached by some order of the steps. -/
abbrev Reached (sizeMb : UInt64) : Family Call Answer Unit (List String) → Prop :=
  ReflTransGen (Step system) (start sizeMb)

theorem reached_supervised {sizeMb : UInt64} {now : Family Call Answer Unit (List String)}
    (reached : Reached sizeMb now) : Supervised discipline (fun _ files => NoLibrary files) now :=
  reachable_supervised reached (.start (demo_stays sizeMb) (demo_joins sizeMb))

/-- A process of the family stands at a call. -/
def StandsAt (now : Family Call Answer Unit (List String)) (request : Call) : Prop :=
  (∃ next, now.parent = .call request next) ∨ ∃ pid next, (pid, .call request next) ∈ now.children

/-- At most three children at once, a library that is there wherever one of the processes loads
it, and that goes only once all children have been waited for. -/
structure Shared (now : Family Call Answer Unit (List String)) : Prop where
  three : now.children.length ≤ 3
  loads : ∀ path, StandsAt now (.dlopen path) → path ∈ now.store
  removes : ∀ path, StandsAt now (.removeDirectory path) → now.children = []
  returned : now.parent = .done () → now.children = [] ∧ NoLibrary now.store

theorem library_shared (sizeMb : UInt64) {now : Family Call Answer Unit (List String)}
    (reached : Reached sizeMb now) : Shared now := by
  have supervised := reached_supervised reached
  obtain ⟨files, parent, children⟩ := now
  refine ⟨supervised.limit, ?_, ?_, ?_⟩
  · rintro path (⟨next, rfl⟩ | ⟨pid, next, member⟩)
    · exact of_decide_eq_true (supervised.alone_of_plain rfl).2
    · exact of_decide_eq_true (supervised.beside_of_child member).2.2
  · rintro path (⟨next, rfl⟩ | ⟨pid, next, member⟩)
    · exact (supervised.alone_of_plain rfl).1
    · cases (supervised.beside_of_child member).2.1
  · rintro rfl
    exact supervised.returned

theorem Reached.ask {sizeMb : UInt64} {files : List String} {request : Call}
    {next : Answer request → Action Unit}
    (reached : Reached sizeMb ⟨files, SharedLibrary.ask request >>= next, []⟩)
    (plain : system.kind request = .plain) (answer : Answer request) :
    Reached sizeMb ⟨record files ⟨request, answer⟩, next answer, []⟩ :=
  reached.tail (.parent plain answer)

theorem reached_created (sizeMb : UInt64) (parentPid file : Nat) :
    Reached sizeMb ⟨created parentPid, shareLibrary parentPid, []⟩ := by
  have begun : Reached sizeMb (start sizeMb) := .refl
  unfold start at begun
  rw [demo_eq] at begun
  have opened := ((begun.ask rfl parentPid).ask rfl ()).ask rfl (some file)
  have closed := (opened.ask rfl ()).ask rfl ()
  exact closed.ask rfl (0 : Int)

/-- The first child has been forked, and the parent has the library open. -/
theorem reached_forked : ∃ now, Reached 50 now ∧ now.children.length = 1 := by
  have opened := (reached_created 50 4321 3).tail (.parent rfl (some 3))
  have found := opened.tail (.parent rfl true)
  have tested := found.tail (.parent rfl (42 : Int))
  exact ⟨_, tested.tail (.fork forking.forks 7 nofun), rfl⟩

theorem library_shared_forked :
    ∃ now, Reached 50 now ∧ now.children.length = 1 ∧ Shared now := by
  obtain ⟨now, reached, one⟩ := reached_forked
  exact ⟨now, reached, one, library_shared 50 reached⟩

/-- As long as the demo has not come back some process can go on, and some order of the further
steps comes back, with the files of the library removed. -/
theorem library_comesBack (sizeMb : UInt64) {now : Family Call Answer Unit (List String)}
    (reached : Reached sizeMb now) :
    ((∃ files, now = ⟨files, .done (), []⟩) ∨ ∃ next, Step system now next) ∧
      ∃ files, ReflTransGen (Step system) now ⟨files, .done (), []⟩ ∧ NoLibrary files := by
  have supervised := reached_supervised reached
  constructor
  · obtain ⟨files, parent, children⟩ := now
    cases supervised.progress with
    | inl moves => exact Or.inr moves
    | inr ended =>
      obtain ⟨rfl, value, rfl, -⟩ := ended
      exact Or.inl ⟨files, rfl⟩
  · obtain ⟨files, value, ends, holds⟩ := supervised.ends
    exact ⟨files, ends, holds⟩

theorem library_comesBack_forked :
    ∃ now files, Reached 50 now ∧ now.children.length = 1 ∧
      ReflTransGen (Step system) now ⟨files, .done (), []⟩ ∧ NoLibrary files := by
  obtain ⟨now, reached, one⟩ := reached_forked
  obtain ⟨files, ends, holds⟩ := (library_comesBack 50 reached).2
  exact ⟨now, files, reached, one, ends, holds⟩

end MemoryDemo.Darwin.LibraryFamily
