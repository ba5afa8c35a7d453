import MemoryDemo.Darwin.FootprintDemos

/-! The search of `demo_sysv_shared_memory` for a size and flags that give a segment, and
the accesses through the attachment to the segment it finds. -/

namespace MemoryDemo.Darwin.SysvSearch
open Library.CallTree Calls FootprintDemos

/-- The pairs of size and flags in the order of the two loops. -/
def attempts (sizes : List UInt64) : List (UInt64 × Nat) :=
  sizes.flatMap fun currentSize => flagsOptions.map fun flags => (currentSize, flags)

def refused (key : Nat) (attempt : UInt64 × Nat) : Step :=
  ⟨.shmget key attempt.1 attempt.2, none⟩

/-- The exchanges and the outcome of a right search: every attempt is refused and there is
none, or all attempts before one are refused, and its segment comes with its size. -/
inductive Search (key : Nat) (attempts : List (UInt64 × Nat)) :
    List Step → Option (Nat × UInt64) → Prop where
  | exhausted : Search key attempts (attempts.map (refused key)) none
  | found (before after : List (UInt64 × Nat)) (currentSize : UInt64) (flags shmid : Nat)
      (split : attempts = before ++ (currentSize, flags) :: after) :
      Search key attempts
        (before.map (refused key) ++ [⟨.shmget key currentSize flags, some shmid⟩])
        (some (shmid, currentSize))

/-- A refusal in front of a right search is a right search of one attempt more. -/
theorem Search.after_refusal {key : Nat} {attempts : List (UInt64 × Nat)} {log : List Step}
    {outcome : Option (Nat × UInt64)} (searched : Search key attempts log outcome)
    (attempt : UInt64 × Nat) :
    Search key (attempt :: attempts) (refused key attempt :: log) outcome := by
  cases searched with
  | exhausted => exact .exhausted
  | found before after currentSize flags shmid split =>
    exact .found (attempt :: before) after currentSize flags shmid (by rw [split]; rfl)

/-- The two loops as one. -/
def search (key : Nat) : List (UInt64 × Nat) → Action (Option (Nat × UInt64))
  | [] => return none
  | (currentSize, flags) :: rest => do
    match ← shmget key currentSize flags with
    | some shmid => return some (shmid, currentSize)
    | none => search key rest

theorem tryFlags_search (key : Nat) (currentSize : UInt64) (options : List Nat)
    (others : List (UInt64 × Nat)) :
    (do match ← tryFlags key currentSize options with
        | some shmid => return some (shmid, currentSize)
        | none => search key others) =
      search key (options.map (fun flags => (currentSize, flags)) ++ others) := by
  induction options with
  | nil => rfl
  | cons flags rest ih =>
    unfold tryFlags
    rw [Program.bind_assoc]
    change shmget key currentSize flags >>= _ = shmget key currentSize flags >>= _
    congr 1
    funext answer
    cases answer with
    | some shmid => rfl
    | none => exact ih

theorem trySizes_search (key : Nat) (sizes : List UInt64) :
    trySizes key sizes = search key (attempts sizes) := by
  induction sizes with
  | nil => rfl
  | cons currentSize rest ih =>
    unfold trySizes
    rw [ih]
    exact tryFlags_search key currentSize flagsOptions (attempts rest)

/-- The search is right in every environment and after every past. -/
theorem search_right (key : Nat) (options : List (UInt64 × Nat))
    (environment : Environment Call Answer) (past : List Step) :
    ∃ outcome, (run environment past (search key options)).result = some outcome ∧
      Search key options (run environment past (search key options)).log outcome := by
  induction options generalizing past with
  | nil => exact ⟨none, rfl, .exhausted⟩
  | cons attempt rest ih =>
    obtain ⟨currentSize, flags⟩ := attempt
    change ∃ outcome, (run environment past (Program.ask _ >>= _)).result = _ ∧
      Search key _ (run environment past (Program.ask _ >>= _)).log _
    cases answer : environment past (.shmget key currentSize flags) with
    | some shmid =>
      rw [run_ask environment past _ _ answer]
      exact ⟨_, rfl, .found [] rest currentSize flags shmid rfl⟩
    | none =>
      obtain ⟨outcome, returned, searched⟩ :=
        ih (past ++ [⟨.shmget key currentSize flags, none⟩])
      rw [run_ask environment past _ _ answer]
      exact ⟨outcome, returned, searched.after_refusal (currentSize, flags)⟩

/-- The segments that exist with their sizes, the latest first, and the attachments with
the sizes of the segments behind them. -/
structure SharedSegments where
  segments : List (Nat × UInt64)
  attachments : List (Ptr × UInt64)
  deriving DecidableEq, Repr

/-- What an exchange changes; `none` where it goes past the end of an attached segment. -/
def SharedSegments.exchange (state : SharedSegments) : Step → Option SharedSegments
  | ⟨.shmget _ size _, some shmid⟩ => some { state with segments := (shmid, size) :: state.segments }
  | ⟨.shmctlRemove shmid, _⟩ =>
    some { state with segments := state.segments.filter fun segment => segment.1 ≠ shmid }
  | ⟨.shmat shmid, some address⟩ =>
    (state.segments.lookup shmid).map fun size =>
      { state with attachments := (.address address, size) :: state.attachments }
  | ⟨.shmdt start, _⟩ =>
    some { state with attachments := state.attachments.filter fun attached => attached.1 ≠ start }
  | ⟨.access (.attachment start) bytes, _⟩ =>
    (state.attachments.lookup start).bind fun size => if bytes ≤ size then some state else none
  | _ => some state

/-- Every access to an attachment in a run of the action lies inside its segment. -/
abbrev StaysInside {α : Type} (action : Action α) (state : SharedSegments)
    (post : α → SharedSegments → Prop) : Prop :=
  Safe SharedSegments.exchange action state post

section Rules
variable {state : SharedSegments}

@[simp]
theorem inside_bind {α β : Type} (action : Action α) (next : α → Action β)
    (post : β → SharedSegments → Prop) :
    StaysInside (action >>= next) state post ↔
      StaysInside action state fun value after => StaysInside (next value) after post :=
  safe_bind _ action next state post

@[simp]
theorem inside_pure {α : Type} (value : α) (post : α → SharedSegments → Prop) :
    StaysInside (pure value) state post ↔ post value state :=
  safe_pure _ value state post

@[simp]
theorem inside_shmget (key : Nat) (size : UInt64) (flags : Nat)
    (post : Option Nat → SharedSegments → Prop) :
    StaysInside (shmget key size flags) state post ↔
      post none state ∧
        ∀ shmid, post (some shmid) { state with segments := (shmid, size) :: state.segments } :=
  safe_ask_answer SharedSegments.exchange (.shmget key size flags) (fun _ => Option.forall) rfl
    (fun _ => rfl) post

@[simp]
theorem inside_shmctlRemove (shmid : Nat) (post : Unit → SharedSegments → Prop) :
    StaysInside (shmctlRemove shmid) state post ↔
      post () { state with segments := state.segments.filter fun segment => segment.1 ≠ shmid } :=
  (safe_ask_moves SharedSegments.exchange (.shmctlRemove shmid) (fun _ => rfl) post).trans
    Unique.forall_iff

@[simp]
theorem inside_shmat {shmid : Nat} {size : UInt64} (post : Ptr → SharedSegments → Prop)
    (known : state.segments.lookup shmid = some size) :
    StaysInside (shmat shmid) state post ↔
      post .mapFailed state ∧ ∀ address, post (.address address)
        { state with attachments := (.address address, size) :: state.attachments } := by
  rw [shmat, inside_bind]
  exact safe_ask_answer SharedSegments.exchange (.shmat shmid) (fun _ => Option.forall) rfl
    (fun _ => by rw [SharedSegments.exchange, known, Option.map_some]) _

@[simp]
theorem inside_shmdt (start : Ptr) (post : Unit → SharedSegments → Prop) :
    StaysInside (shmdt start) state post ↔
      post () { state with
        attachments := state.attachments.filter fun attached => attached.1 ≠ start } :=
  (safe_ask_moves SharedSegments.exchange (.shmdt start) (fun _ => rfl) post).trans
    Unique.forall_iff

theorem inside_access {start : Ptr} {size bytes : UInt64} (post : Unit → SharedSegments → Prop)
    (attached : state.attachments.lookup start = some size) (fits : bytes ≤ size) :
    StaysInside (access (.attachment start) bytes) state post ↔ post () state := by
  have stays : ∀ answer, state.exchange ⟨.access (.attachment start) bytes, answer⟩ = some state := by
    intro answer
    simp only [SharedSegments.exchange, attached, Option.bind_some, if_pos fits]
  exact (safe_ask_moves SharedSegments.exchange (.access (.attachment start) bytes) stays post).trans
    Unique.forall_iff

end Rules

/-- The calls that have to do with segments. -/
def concerns : Call → Bool
  | .shmget _ _ _ | .shmctlRemove _ | .shmat _ | .shmdt _ => true
  | .access (.attachment _) _ => true
  | _ => false

theorem inside_other {state : SharedSegments} {request : Call} (other : concerns request = false)
    {post : Answer request → SharedSegments → Prop} (holds : ∀ answer, post answer state) :
    StaysInside (ask request) state post := by
  have stays : ∀ answer, state.exchange ⟨request, answer⟩ = some state := by
    intro answer
    cases request with
    | shmget key size flags => cases other
    | shmctlRemove shmid => cases other
    | shmat shmid => cases other
    | shmdt start => cases other
    | access target bytes =>
      cases target with
      | attachment start => cases other
      | _ => rfl
    | _ => rfl
  exact (safe_ask_moves _ request stays post).mpr holds

theorem inside_other_bind {α : Type} {state : SharedSegments} {request : Call}
    {next : Answer request → Action α} {post : α → SharedSegments → Prop}
    (other : concerns request = false)
    (holds : ∀ answer, StaysInside (next answer) state post) :
    StaysInside (ask request >>= next) state post := by
  rw [inside_bind]
  exact inside_other other holds

/-- The shared memory demos stay inside if both processes do. -/
theorem withChild_inside {child parent : Action Unit} {state : SharedSegments}
    {post : Unit → SharedSegments → Prop} (holds : post () state)
    (childInside : StaysInside child state fun _ _ => True)
    (parentInside : StaysInside parent state post) :
    StaysInside (withChild child parent) state post := by
  unfold withChild
  refine inside_other_bind rfl fun forked => ?_
  cases forked with
  | failed => exact holds
  | child =>
    rw [inside_bind]
    exact childInside.mono fun _ _ _ => trivial
  | parent pid => exact inside_other_bind rfl fun _ => parentInside

/-- The calls of the demo of POSIX shared memory have nothing to do with segments. -/
theorem demoSharedMemory_inside (sizeMb : UInt64) (state : SharedSegments) :
    StaysInside (demoSharedMemory sizeMb) state fun _ _ => True := by
  have cleanUp : ∀ fd name, StaysInside (do close fd; shmUnlink name) state fun _ _ => True :=
    fun fd name => inside_other_bind rfl fun _ => inside_other rfl fun _ => trivial
  unfold demoSharedMemory
  refine inside_other_bind rfl fun pid => ?_
  refine inside_other_bind rfl fun opened => ?_
  cases opened with
  | none => trivial
  | some fd =>
    refine inside_other_bind rfl fun truncated => ?_
    cases truncated with
    | false => exact cleanUp fd _
    | true =>
      rw [if_neg (by simp), inside_bind]
      unfold mmap
      refine inside_other_bind rfl fun mapped => ?_
      cases mapped with
      | none => exact cleanUp fd _
      | some address =>
        rw [inside_pure, if_neg (by simp [pointer])]
        refine inside_other_bind rfl fun _ => ?_
        rw [inside_bind]
        apply withChild_inside
        · exact inside_other_bind rfl fun _ => cleanUp fd _
        · unfold childWrites readFirst
          exact inside_other_bind rfl fun _ => inside_other_bind rfl fun _ =>
            inside_other rfl fun _ => trivial
        · refine inside_other rfl fun _ => ?_
          exact inside_other_bind rfl fun _ => cleanUp fd _

theorem search_inside (key : Nat) (options : List (UInt64 × Nat)) {state : SharedSegments}
    {post : Option (Nat × UInt64) → SharedSegments → Prop} (refused : post none state)
    (granted : ∀ attempt ∈ options, ∀ shmid, post (some (shmid, attempt.1))
      { state with segments := (shmid, attempt.1) :: state.segments }) :
    StaysInside (search key options) state post := by
  induction options with
  | nil => exact refused
  | cons attempt rest ih =>
    unfold search
    rw [inside_bind, inside_shmget]
    exact ⟨ih fun other member => granted other (List.mem_cons_of_mem _ member),
      granted attempt (List.mem_cons_self ..)⟩

theorem removeExisting_inside (state : SharedSegments) :
    StaysInside (removeExisting ipcPrivate) state fun _ _ => True := by
  unfold removeExisting
  rw [inside_bind, inside_shmget]
  exact ⟨trivial, fun existingShmid => (inside_shmctlRemove _ _).mpr trivial⟩

/-- No size that the search asks for is too small for a read of the first byte. -/
theorem attempts_hold_byte : ∀ attempt ∈ attempts sizeOptions, 1 ≤ attempt.1 := by
  decide

/-- The demo with its segment, which is at least as large as a byte. -/
theorem useSegment_inside {shmid : Nat} {currentSize : UInt64} {state : SharedSegments}
    (byte : 1 ≤ currentSize) (known : state.segments.lookup shmid = some currentSize) :
    StaysInside (useSegment shmid currentSize) state fun _ _ => True := by
  unfold useSegment
  rw [inside_bind, inside_shmat _ known]
  refine ⟨?_, fun address => ?_⟩
  · -- the segment cannot be attached: it is removed and the other demo runs
    rw [if_pos rfl, inside_bind, inside_shmctlRemove, inside_bind]
    exact (demoSharedMemory_inside 1 _).mono fun _ _ _ => trivial
  have attached : List.lookup (.address address) ((.address address, currentSize) ::
      state.attachments) = some currentSize := by simp
  have whole : currentSize ≤ currentSize := UInt64.le_refl _
  rw [if_neg (by simp), inside_bind, inside_access _ attached whole, inside_bind]
  apply withChild_inside
  · simp
  · simp only [childWrites, readFirst, inside_bind]
    rw [inside_access _ attached byte, inside_access _ attached whole,
      inside_access _ attached byte, inside_shmdt]
    trivial
  · simp only [readFirst]
    rw [inside_access _ attached byte]
    simp

theorem demoSysvSharedMemory_inside (sizeMb : UInt64) (state : SharedSegments) :
    StaysInside (demoSysvSharedMemory sizeMb) state fun _ _ => True := by
  unfold demoSysvSharedMemory
  refine inside_other_bind rfl fun _ => ?_
  rw [inside_bind]
  apply (removeExisting_inside state).mono
  intro _ state _
  rw [inside_bind, trySizes_search]
  apply search_inside
  · -- no segment: the demo of POSIX shared memory runs instead
    exact inside_other_bind rfl fun _ => inside_other_bind rfl fun _ =>
      demoSharedMemory_inside 1 state
  · intro attempt member shmid
    exact useSegment_inside (attempts_hold_byte attempt member) (by simp)

/-- What the demo does before it searches. -/
def beforeSearch : Action Unit := do
  let _ ← system "ipcs -l"
  removeExisting ipcPrivate

theorem demoSysvSharedMemory_split (sizeMb : UInt64) :
    demoSysvSharedMemory sizeMb =
      beforeSearch >>= fun _ => trySizes ipcPrivate sizeOptions >>= afterSearch :=
  (Program.bind_assoc _ _ _).symm

theorem beforeSearch_returns : Returns beforeSearch := by
  intro status existing
  cases existing with
  | none => trivial
  | some shmid => exact fun _ => trivial

theorem Search.none_iff {key : Nat} {attempts : List (UInt64 × Nat)} {log : List Step}
    {outcome : Option (Nat × UInt64)} (searched : Search key attempts log outcome) :
    outcome = none ↔ log = attempts.map (refused key) := by
  cases searched with
  | exhausted => simp
  | found before after currentSize flags shmid split =>
    have granted : (⟨.shmget key currentSize flags, some shmid⟩ : Step) ∉
        attempts.map (refused key) := by
      intro member
      obtain ⟨attempt, _, same⟩ := List.mem_map.mp member
      cases same
    constructor
    · intro absent
      cases absent
    · intro same
      exact absurd (same ▸ List.mem_append_right _ (List.mem_singleton_self _)) granted

/-- The calls of an attempt. -/
def attempting : Call → Bool
  | .shmget key size flags => key = ipcPrivate ∧ (size, flags) ∈ attempts sizeOptions
  | _ => false

/-- The segment left over from before is looked for with a size of nothing. -/
theorem beforeSearch_avoids : Avoids attempting beforeSearch := by
  refine ⟨rfl, fun _ => ⟨by decide, fun existing => ?_⟩⟩
  cases existing with
  | none => trivial
  | some shmid => exact ⟨rfl, fun _ => trivial⟩

section Avoiding
variable {calls : Call → Bool}

theorem avoids_call {α : Type} {request : Call} {next : Answer request → Action α}
    (other : calls request = false) (rest : ∀ answer, Avoids calls (next answer)) :
    Avoids calls (ask request >>= next) :=
  ⟨other, rest⟩

theorem withChild_avoids {child parent : Action Unit} (forks : calls .fork = false)
    (waits : ∀ pid, calls (.waitpid pid) = false) (inChild : Avoids calls child)
    (inParent : Avoids calls parent) : Avoids calls (withChild child parent) := by
  apply avoids_call forks
  intro forked
  cases forked with
  | failed => trivial
  | child => exact inChild.bind fun _ => trivial
  | parent pid => exact ⟨waits pid, fun _ => inParent⟩

end Avoiding

theorem sharing_avoids (memory : Resource) (bytes : UInt64) :
    Avoids attempting (childWrites memory bytes) ∧ Avoids attempting (readFirst memory) :=
  ⟨⟨rfl, fun _ => ⟨rfl, fun _ => ⟨rfl, fun _ => trivial⟩⟩⟩, rfl, fun _ => trivial⟩

theorem demoSharedMemory_avoids (sizeMb : UInt64) :
    Avoids attempting (demoSharedMemory sizeMb) := by
  apply avoids_call rfl
  intro pid
  apply avoids_call rfl
  intro opened
  cases opened with
  | none => trivial
  | some fd =>
    apply avoids_call rfl
    intro truncated
    cases truncated with
    | false => exact ⟨rfl, fun _ => ⟨rfl, fun _ => trivial⟩⟩
    | true =>
      refine ⟨rfl, fun mapped => ?_⟩
      cases mapped with
      | none => exact ⟨rfl, fun _ => ⟨rfl, fun _ => trivial⟩⟩
      | some address =>
        have sharing := sharing_avoids (.range (.address address) (sizeBytes sizeMb))
          (sizeBytes sizeMb)
        refine ⟨rfl, fun _ => ?_⟩
        apply (withChild_avoids rfl (fun _ => rfl) sharing.1 sharing.2).bind
        exact fun _ => ⟨rfl, fun _ => ⟨rfl, fun _ => ⟨rfl, fun _ => trivial⟩⟩⟩

theorem useSegment_avoids (shmid : Nat) (currentSize : UInt64) :
    Avoids attempting (useSegment shmid currentSize) := by
  refine ⟨rfl, fun attached => ?_⟩
  cases attached with
  | none => exact ⟨rfl, fun _ => (demoSharedMemory_avoids 1).bind fun _ => trivial⟩
  | some address =>
    have sharing := sharing_avoids (.attachment (.address address)) currentSize
    have inChild : Avoids attempting (do
        childWrites (.attachment (.address address)) currentSize
        shmdt (.address address)) :=
      sharing.1.bind fun _ => ⟨rfl, fun _ => trivial⟩
    refine ⟨rfl, fun _ => ?_⟩
    apply (withChild_avoids rfl (fun _ => rfl) inChild sharing.2).bind
    exact fun _ => ⟨rfl, fun _ => ⟨rfl, fun _ => trivial⟩⟩

theorem afterSearch_avoids (outcome : Option (Nat × UInt64)) :
    Avoids attempting (afterSearch outcome) := by
  cases outcome with
  | none => exact ⟨rfl, fun _ => ⟨rfl, fun _ => demoSharedMemory_avoids 1⟩⟩
  | some segment => exact useSegment_avoids segment.1 segment.2

/-- The exchanges of the search in a run of the demo. -/
def searchRun (environment : Environment Call Answer) : Run Call Answer (Option (Nat × UInt64)) :=
  run environment (run environment [] beforeSearch).log (trySizes ipcPrivate sizeOptions)

/-- How such a run goes on with what the search has found. -/
def afterRun (environment : Environment Call Answer) (outcome : Option (Nat × UInt64)) :
    Run Call Answer Unit :=
  run environment ((run environment [] beforeSearch).log ++ (searchRun environment).log)
    (afterSearch outcome)

/-- A run of the demo is right about its search: that goes through the attempts in order up to the
first that is granted, and fails only if all are refused. There is no attempt outside of it, what
it has found is what is attached, and no access to an attachment leaves its segment. -/
structure SearchesRight (environment : Environment Call Answer)
    (whole : Run Call Answer Unit) (outcome : Option (Nat × UInt64)) : Prop where
  log : whole.log = (run environment [] beforeSearch).log ++ (searchRun environment).log ++
    (afterRun environment outcome).log
  result : whole.result = (afterRun environment outcome).result
  found : (searchRun environment).result = some outcome
  search : Search ipcPrivate (attempts sizeOptions) (searchRun environment).log outcome
  failed : outcome = none ↔
    (searchRun environment).log = (attempts sizeOptions).map (refused ipcPrivate)
  before : ∀ exchange ∈ (run environment [] beforeSearch).log, attempting exchange.1 = false
  after : ∀ exchange ∈ (afterRun environment outcome).log, attempting exchange.1 = false
  attached : ∀ shmid currentSize, outcome = some (shmid, currentSize) →
    ∃ answer rest, (afterRun environment outcome).log = ⟨.shmat shmid, answer⟩ :: rest
  inside : (follow SharedSegments.exchange ⟨[], []⟩ whole.log).isSome

/-- None of the attempts is another one again. -/
theorem demoSysvSharedMemory_search_right (sizeMb : UInt64)
    (environment : Environment Call Answer) :
    (attempts sizeOptions).Nodup ∧
      ∃ outcome, SearchesRight environment (run environment [] (demoSysvSharedMemory sizeMb))
        outcome := by
  obtain ⟨final, followed, _⟩ :=
    (demoSysvSharedMemory_inside sizeMb ⟨[], []⟩).run environment []
  obtain ⟨outcome, returned, searched⟩ := search_right ipcPrivate (attempts sizeOptions) environment
    (run environment [] beforeSearch).log
  rw [← trySizes_search] at returned searched
  obtain ⟨⟨⟩, before⟩ := beforeSearch_returns.run environment []
  have whole : run environment [] (demoSysvSharedMemory sizeMb) =
      ⟨(run environment [] beforeSearch).log ++ (searchRun environment).log ++
        (afterRun environment outcome).log, (afterRun environment outcome).result⟩ := by
    rw [demoSysvSharedMemory_split, run_bind environment [] _ _ before, List.nil_append,
      run_bind environment _ _ _ returned, List.append_assoc]
    rfl
  refine ⟨by decide, outcome, ?_⟩
  exact
    { log := by rw [whole]
      result := by rw [whole]
      found := returned
      search := searched
      failed := searched.none_iff
      before := beforeSearch_avoids.run environment []
      after := (afterSearch_avoids outcome).run environment
        ((run environment [] beforeSearch).log ++ (searchRun environment).log)
      attached := by
        rintro shmid currentSize rfl
        exact ⟨_, _, rfl⟩
      inside := by
        rw [followed]
        rfl }

end MemoryDemo.Darwin.SysvSearch
