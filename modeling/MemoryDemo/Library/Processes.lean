import Mathlib.Logic.Hydra
import Mathlib.Logic.Relation
import MemoryDemo.Library.CallTree

/-! A program of calls and the children that it forks, which run side by side and see one
store. A discipline bounds how many children there are, lets the parent do nothing but fork
and wait while there are any, and says what a call has to find in the store. What it promises
holds whatever the order in which the processes take their steps. -/

namespace MemoryDemo.Library.Processes
open CallTree Relation

inductive Forked where
  | failed
  | child
  | parent (pid : Nat)
  deriving DecidableEq, Repr

/-- What a call is to the other processes. -/
inductive Kind (α : Type) where
  | plain
  | fork (outcome : α ≃ Forked)
  | wait (pid : Nat)

/-- The answer is one that a parent gets, and not its child. -/
def Kind.InParent {α : Type} : Kind α → α → Prop
  | .fork outcome, answer => outcome answer ≠ .child
  | .plain, _ | .wait _, _ => True

/-- Which calls fork and wait, and what the exchanges of a process do to the store. -/
structure System (Call : Type) (Answer : Call → Type) (Store : Type) where
  kind : (request : Call) → Kind (Answer request)
  record : Store → Exchange Call Answer → Store
  answers : ∀ request, Nonempty (Answer request)

variable {Call : Type} {Answer : Call → Type} {α Store : Type}

/-- The call by which the programs of a system fork, and those by which they wait for a child;
there are no others to wait with. -/
structure Forking (system : System Call Answer Store) where
  fork : Call
  outcome : Answer fork ≃ Forked
  wait : Nat → Call
  forks : system.kind fork = .fork outcome
  waits : ∀ pid, system.kind (wait pid) = .wait pid
  only : ∀ {request pid}, system.kind request = .wait pid → request = wait pid

/-- A parent with the children that it has not waited for yet. -/
structure Family (Call : Type) (Answer : Call → Type) (α Store : Type) where
  store : Store
  parent : Program Call Answer α
  children : List (Nat × Program Call Answer α)

def Ended : Program Call Answer α → Prop
  | .call _ _ => False
  | .done _ | .halt => True

section
variable (system : System Call Answer Store)

/-- No way of a parent through the program ends its process. -/
def Stays : Program Call Answer α → Prop
  | .done _ => True
  | .halt => False
  | .call request next => ∀ answer, (system.kind request).InParent answer → Stays (next answer)

variable {system} in
theorem Stays.bind {β : Type} {program : Program Call Answer α}
    {next : α → Program Call Answer β} (first : Stays system program)
    (rest : ∀ value, Stays system (next value)) : Stays system (program >>= next) := by
  induction program with
  | done value => exact rest value
  | halt => exact first.elim
  | call request _ ih => exact fun answer parent => ih answer (first answer parent)

/-- One process goes on by one call. A fork gives a process id that no child has, and a wait
returns once the child has ended. -/
inductive Step : Family Call Answer α Store → Family Call Answer α Store → Prop where
  | parent {store : Store} {request : Call} {next : Answer request → Program Call Answer α}
      {children : List (Nat × Program Call Answer α)} (plain : system.kind request = .plain)
      (answer : Answer request) :
      Step ⟨store, .call request next, children⟩
        ⟨system.record store ⟨request, answer⟩, next answer, children⟩
  | forkFails {store : Store} {request : Call} {next : Answer request → Program Call Answer α}
      {children : List (Nat × Program Call Answer α)} {outcome : Answer request ≃ Forked}
      (forks : system.kind request = .fork outcome) :
      Step ⟨store, .call request next, children⟩
        ⟨store, next (outcome.symm .failed), children⟩
  | fork {store : Store} {request : Call} {next : Answer request → Program Call Answer α}
      {children : List (Nat × Program Call Answer α)} {outcome : Answer request ≃ Forked}
      (forks : system.kind request = .fork outcome) (pid : Nat)
      (fresh : pid ∉ children.map Prod.fst) :
      Step ⟨store, .call request next, children⟩
        ⟨store, next (outcome.symm (.parent pid)),
          (pid, next (outcome.symm .child)) :: children⟩
  | wait {store : Store} {request : Call} {next : Answer request → Program Call Answer α}
      {before after : List (Nat × Program Call Answer α)} {pid : Nat}
      {program : Program Call Answer α} (waits : system.kind request = .wait pid)
      (ended : Ended program) (answer : Answer request) :
      Step ⟨store, .call request next, before ++ (pid, program) :: after⟩
        ⟨store, next answer, before ++ after⟩
  | child {store : Store} {parent : Program Call Answer α} {request : Call}
      {next : Answer request → Program Call Answer α}
      {before after : List (Nat × Program Call Answer α)} {pid : Nat}
      (plain : system.kind request = .plain) (answer : Answer request) :
      Step ⟨store, parent, before ++ (pid, .call request next) :: after⟩
        ⟨system.record store ⟨request, answer⟩, parent, before ++ (pid, next answer) :: after⟩

/-- How many children there may be at once, what a call needs to find in the store, and which
calls a child makes; those leave the store as it is. -/
structure Discipline where
  limit : Nat
  needs : Call → Store → Bool
  beside : Call → Bool
  leaves : ∀ request, beside request = true →
    ∀ store answer, system.record store ⟨request, answer⟩ = store

end

/-- The parent with the children it has to wait for, or a child. -/
inductive Role where
  | parent (waiting : Multiset Nat)
  | child

variable {system : System Call Answer Store} (discipline : Discipline system)

/-- What a process may do, whichever part it has. -/
def joining : Role × Store → Exchange Call Answer → Option (Role × Store)
  | (.parent waiting, store), exchange =>
    match system.kind exchange.1 with
    | .plain =>
      if waiting = 0 ∧ discipline.needs exchange.1 store then
        some (.parent 0, system.record store exchange)
      else none
    | .fork outcome =>
      if waiting.card < discipline.limit then
        match outcome exchange.2 with
        | .failed => some (.parent waiting, store)
        | .child => some (.child, store)
        | .parent pid => some (.parent (pid ::ₘ waiting), store)
      else none
    | .wait pid =>
      if pid ∈ waiting then some (.parent (waiting.erase pid), store) else none
  | (.child, store), exchange =>
    match system.kind exchange.1 with
    | .plain =>
      if discipline.beside exchange.1 ∧ discipline.needs exchange.1 store then
        some (.child, store)
      else none
    | .fork _ | .wait _ => none

theorem forall_forked (holds : Forked → Prop) :
    (∀ forked, holds forked) ↔ holds .failed ∧ holds .child ∧ ∀ pid, holds (.parent pid) := by
  constructor
  · intro all
    exact ⟨all .failed, all .child, fun pid => all (.parent pid)⟩
  · intro each forked
    cases forked with
    | failed => exact each.1
    | child => exact each.2.1
    | parent pid => exact each.2.2 pid

section Rules
variable {request : Call} {next : Answer request → Program Call Answer α} {store : Store}
  {waiting : Multiset Nat} {post : α → Role × Store → Prop}

/-- A plain call of the parent needs that it has no children. -/
theorem safe_plain (plain : system.kind request = .plain) :
    Safe (joining discipline) (.call request next) (.parent waiting, store) post ↔
      waiting = 0 ∧ discipline.needs request store = true ∧
        ∀ answer, Safe (joining discipline) (next answer)
          (.parent 0, system.record store ⟨request, answer⟩) post := by
  have := system.answers request
  simp only [Safe, joining, plain]
  by_cases able : waiting = 0 ∧ discipline.needs request store = true
  · simp only [able, and_self, if_true, Option.some.injEq, exists_eq_left', true_and]
  · simp only [able, if_false, reduceCtorEq, false_and, exists_false, forall_const, false_iff]
    intro all
    exact able ⟨all.1, all.2.1⟩

theorem safe_fork {outcome : Answer request ≃ Forked}
    (forks : system.kind request = .fork outcome) :
    Safe (joining discipline) (.call request next) (.parent waiting, store) post ↔
      waiting.card < discipline.limit ∧
        Safe (joining discipline) (next (outcome.symm .failed)) (.parent waiting, store) post ∧
        Safe (joining discipline) (next (outcome.symm .child)) (.child, store) post ∧
        ∀ pid, Safe (joining discipline) (next (outcome.symm (.parent pid)))
          (.parent (pid ::ₘ waiting), store) post := by
  have := system.answers request
  simp only [Safe, joining, forks]
  by_cases able : waiting.card < discipline.limit
  · rw [outcome.forall_congr_left, forall_forked]
    simp [able]
  · simp only [able, if_false, reduceCtorEq, false_and, exists_false, forall_const]

theorem safe_wait {pid : Nat} (waits : system.kind request = .wait pid) :
    Safe (joining discipline) (.call request next) (.parent waiting, store) post ↔
      pid ∈ waiting ∧ ∀ answer,
        Safe (joining discipline) (next answer) (.parent (waiting.erase pid), store) post := by
  have := system.answers request
  simp only [Safe, joining, waits]
  by_cases able : pid ∈ waiting
  · simp only [able, if_true, Option.some.injEq, exists_eq_left', true_and]
  · simp only [able, if_false, reduceCtorEq, false_and, exists_false, forall_const]

theorem safe_child_plain (plain : system.kind request = .plain) :
    Safe (joining discipline) (.call request next) (.child, store) post ↔
      (discipline.beside request = true ∧ discipline.needs request store = true) ∧
        ∀ answer, Safe (joining discipline) (next answer) (.child, store) post := by
  have := system.answers request
  simp only [Safe, joining, plain]
  by_cases able : discipline.beside request = true ∧ discipline.needs request store = true
  · simp only [able, and_self, if_true, Option.some.injEq, exists_eq_left', true_and]
  · simp only [able, if_false, reduceCtorEq, false_and, exists_false, forall_const]

/-- A child makes plain calls only. -/
theorem plain_of_child
    (safe : Safe (joining discipline) (.call request next) (.child, store) post) :
    system.kind request = .plain := by
  obtain ⟨answer⟩ := system.answers request
  obtain ⟨after, followed, -⟩ := safe answer
  simp only [joining] at followed
  split at followed
  next plain => exact plain
  next => cases followed
  next => cases followed

end Rules

/-- The process ids of the children. -/
def pids (children : List (Nat × Program Call Answer α)) : Multiset Nat :=
  (children.map Prod.fst : List Nat)

theorem pids_middle (before after : List (Nat × Program Call Answer α)) (pid : Nat)
    (program : Program Call Answer α) :
    pids (before ++ (pid, program) :: after) = pid ::ₘ pids (before ++ after) := by
  unfold pids
  rw [List.map_append, List.map_append, List.map_cons, Multiset.cons_coe, Multiset.coe_eq_coe]
  exact List.perm_middle

theorem pids_erase (before after : List (Nat × Program Call Answer α)) (pid : Nat)
    (program : Program Call Answer α) :
    (pids (before ++ (pid, program) :: after)).erase pid = pids (before ++ after) := by
  rw [pids_middle, Multiset.erase_cons_head]

theorem pids_eq_zero {children : List (Nat × Program Call Answer α)} (none : pids children = 0) :
    children = [] :=
  List.map_eq_nil_iff.mp (Multiset.coe_eq_zero _ |>.mp none)

/-- A parent that returns has waited for its children, and a child never returns. -/
def atEnd (post : α → Store → Prop) : α → Role × Store → Prop
  | value, (.parent waiting, store) => waiting = 0 ∧ post value store
  | _, (.child, _) => False

/-- Every process keeps to the discipline, whatever it is still to do. -/
structure Supervised (post : α → Store → Prop) (now : Family Call Answer α Store) : Prop where
  stays : Stays system now.parent
  limit : now.children.length ≤ discipline.limit
  parent : Safe (joining discipline) now.parent (.parent (pids now.children), now.store)
    (atEnd post)
  children : ∀ entry ∈ now.children,
    Safe (joining discipline) entry.2 (.child, now.store) (atEnd post)

variable {discipline} {post : α → Store → Prop}

theorem Supervised.start {program : Program Call Answer α} {store : Store}
    (stays : Stays system program)
    (safe : Safe (joining discipline) program (.parent 0, store) (atEnd post)) :
    Supervised discipline post ⟨store, program, []⟩ :=
  ⟨stays, Nat.zero_le _, safe, nofun⟩

theorem step_supervised {now next : Family Call Answer α Store} (step : Step system now next)
    (supervised : Supervised discipline post now) : Supervised discipline post next := by
  cases step with
  | @parent _ _ _ children plain answer =>
    obtain ⟨alone, -, goesOn⟩ := (safe_plain discipline plain).mp supervised.parent
    obtain rfl : children = [] := pids_eq_zero alone
    exact .start (supervised.stays answer (by rw [plain]; trivial)) (goesOn answer)
  | forkFails forks =>
    obtain ⟨stays, limit, parent, children⟩ := supervised
    exact ⟨stays _ (by rw [forks]; simp [Kind.InParent]), limit,
      ((safe_fork discipline forks).mp parent).2.1, children⟩
  | fork forks pid fresh =>
    obtain ⟨stays, limit, parent, children⟩ := supervised
    obtain ⟨room, -, inChild, inParent⟩ := (safe_fork discipline forks).mp parent
    refine ⟨stays _ (by rw [forks]; simp [Kind.InParent]), ?_, inParent pid, ?_⟩
    · simpa [pids, Nat.succ_le_iff] using room
    · intro entry member
      cases List.mem_cons.mp member with
      | inl new => rw [new]; exact inChild
      | inr earlier => exact children entry earlier
  | wait waits ended answer =>
    obtain ⟨stays, limit, parent, children⟩ := supervised
    obtain ⟨-, goesOn⟩ := (safe_wait discipline waits).mp parent
    rw [pids_erase] at goesOn
    refine ⟨stays _ (by rw [waits]; trivial), ?_, goesOn answer, fun entry member => children entry ?_⟩
    · simp only [List.length_append, List.length_cons] at limit ⊢
      omega
    · exact ((List.sublist_cons_self _ _).append_left _).subset member
  | @child _ _ request _ before after pid plain answer =>
    obtain ⟨stays, limit, parent, children⟩ := supervised
    obtain ⟨⟨beside, -⟩, goesOn⟩ := (safe_child_plain discipline plain).mp
      (children _ (List.mem_append_right _ List.mem_cons_self))
    rw [discipline.leaves request beside]
    rw [pids_middle] at parent
    refine ⟨stays, by simpa using limit, by rwa [pids_middle], fun entry member => ?_⟩
    cases List.mem_append.mp member with
    | inl earlier => exact children entry (List.mem_append_left _ earlier)
    | inr later =>
      cases List.mem_cons.mp later with
      | inl itself => rw [itself]; exact goesOn answer
      | inr behind =>
        exact children entry (List.mem_append_right _ (List.mem_cons_of_mem _ behind))

/-- In every order of the steps. -/
theorem reachable_supervised {start now : Family Call Answer α Store}
    (reached : ReflTransGen (Step system) start now)
    (supervised : Supervised discipline post start) : Supervised discipline post now := by
  induction reached with
  | refl => exact supervised
  | tail _ step ih => exact step_supervised step ih

namespace Supervised
variable {store : Store} {parent : Program Call Answer α} {request : Call}
  {next : Answer request → Program Call Answer α}
  {children : List (Nat × Program Call Answer α)}

theorem alone_of_plain
    (supervised : Supervised discipline post ⟨store, .call request next, children⟩)
    (plain : system.kind request = .plain) :
    children = [] ∧ discipline.needs request store = true := by
  obtain ⟨alone, found, -⟩ := (safe_plain discipline plain).mp supervised.parent
  exact ⟨pids_eq_zero alone, found⟩

theorem room_of_fork {outcome : Answer request ≃ Forked}
    (supervised : Supervised discipline post ⟨store, .call request next, children⟩)
    (forks : system.kind request = .fork outcome) : children.length < discipline.limit := by
  have room := ((safe_fork discipline forks).mp supervised.parent).1
  simpa [pids] using room

/-- A child stands at a plain call which it may make, and finds what that needs. -/
theorem beside_of_child {pid : Nat}
    (supervised : Supervised discipline post ⟨store, parent, children⟩)
    (member : (pid, .call request next) ∈ children) :
    system.kind request = .plain ∧ discipline.beside request = true ∧
      discipline.needs request store = true := by
  have safe := supervised.children _ member
  have plain := plain_of_child discipline safe
  exact ⟨plain, ((safe_child_plain discipline plain).mp safe).1⟩

/-- A parent that waits has a child of that process id. -/
theorem mem_of_wait {pid : Nat}
    (supervised : Supervised discipline post ⟨store, .call request next, children⟩)
    (waits : system.kind request = .wait pid) : ∃ program, (pid, program) ∈ children := by
  obtain ⟨member, -⟩ := (safe_wait discipline waits).mp supervised.parent
  obtain ⟨⟨_, program⟩, among, rfl⟩ := List.mem_map.mp (Multiset.mem_coe.mp member)
  exact ⟨program, among⟩

/-- With room for one child only, a parent that has a child stands at the wait for it. -/
theorem waits_for_only (one : discipline.limit = 1)
    (supervised : Supervised discipline post ⟨store, .call request next, children⟩)
    (living : children ≠ []) :
    ∃ pid program, system.kind request = .wait pid ∧ children = [(pid, program)] := by
  have few : children.length ≤ 1 := one ▸ supervised.limit
  cases kinds : system.kind request with
  | plain => exact absurd (supervised.alone_of_plain kinds).1 living
  | fork outcome =>
    have room : children.length < 1 := one ▸ supervised.room_of_fork kinds
    exact absurd (List.length_eq_zero_iff.mp (Nat.lt_one_iff.mp room)) living
  | wait pid =>
    obtain ⟨program, member⟩ := supervised.mem_of_wait kinds
    obtain ⟨only, rfl⟩ := List.length_eq_one_iff.mp
      (le_antisymm few (List.length_pos_of_mem member))
    exact ⟨pid, program, rfl, by rw [List.mem_singleton.mp member]⟩

/-- The same in the words of the program. -/
theorem stands_at_wait (forking : Forking system) (one : discipline.limit = 1)
    (supervised : Supervised discipline post ⟨store, .call request next, children⟩)
    (living : children ≠ []) :
    ∃ pid program, request = forking.wait pid ∧ children = [(pid, program)] := by
  obtain ⟨pid, program, kinds, only⟩ := supervised.waits_for_only one living
  exact ⟨pid, program, forking.only kinds, only⟩

theorem returned {value : α}
    (supervised : Supervised discipline post ⟨store, .done value, children⟩) :
    children = [] ∧ post value store := by
  obtain ⟨alone, holds⟩ := supervised.parent
  exact ⟨pids_eq_zero alone, holds⟩

/-- A child goes on until it has ended. -/
theorem child_moves {pid : Nat} {program : Program Call Answer α}
    (supervised : Supervised discipline post ⟨store, parent, children⟩)
    (member : (pid, program) ∈ children) (running : ¬ Ended program) :
    ∃ next, Step system ⟨store, parent, children⟩ next := by
  cases program with
  | done value => exact absurd trivial running
  | halt => exact absurd trivial running
  | call request next =>
    obtain ⟨answer⟩ := system.answers request
    obtain ⟨before, after, rfl⟩ := List.append_of_mem member
    exact ⟨_, .child (supervised.beside_of_child member).1 answer⟩

/-- Nothing is stuck before the parent has returned, with all its children waited for. -/
theorem progress (supervised : Supervised discipline post ⟨store, parent, children⟩) :
    (∃ next, Step system ⟨store, parent, children⟩ next) ∨
      children = [] ∧ ∃ value, parent = .done value ∧ post value store := by
  cases parent with
  | done value =>
    obtain ⟨alone, holds⟩ := supervised.returned
    exact Or.inr ⟨alone, value, rfl, holds⟩
  | halt => exact supervised.stays.elim
  | call request next =>
    apply Or.inl
    obtain ⟨answer⟩ := system.answers request
    cases kind : system.kind request with
    | plain => exact ⟨_, .parent kind answer⟩
    | fork outcome => exact ⟨_, .forkFails kind⟩
    | wait pid =>
      obtain ⟨program, member⟩ := supervised.mem_of_wait kind
      by_cases ended : Ended program
      · obtain ⟨before, after, rfl⟩ := List.append_of_mem member
        exact ⟨_, .wait kind ended answer⟩
      · exact supervised.child_moves member ended

end Supervised

section Termination

/-- What is left of a program behind its first call. -/
def Behind (rest program : Program Call Answer α) : Prop :=
  ∃ request next answer, program = .call request next ∧ rest = next answer

theorem behind_wellFounded : 
    WellFounded (@Behind Call Answer α) := by
  refine ⟨fun program => ?_⟩
  induction program with
  | done value => exact ⟨_, fun rest ⟨_, _, _, same, _⟩ => nomatch same⟩
  | halt => exact ⟨_, fun rest ⟨_, _, _, same, _⟩ => nomatch same⟩
  | call request next ih =>
    refine ⟨_, fun rest ⟨_, _, answer, same, left⟩ => ?_⟩
    cases same
    rw [left]
    exact ih answer

/-- What the children still have to do. -/
def running (children : List (Nat × Program Call Answer α)) : Multiset (Program Call Answer α) :=
  (children.map Prod.snd : List (Program Call Answer α))

def programs (now : Family Call Answer α Store) : Multiset (Program Call Answer α) :=
  now.parent ::ₘ running now.children

theorem programs_middle (store : Store) (parent program : Program Call Answer α)
    (before after : List (Nat × Program Call Answer α)) (pid : Nat) :
    programs ⟨store, parent, before ++ (pid, program) :: after⟩ =
      program ::ₘ programs ⟨store, parent, before ++ after⟩ := by
  unfold programs running
  rw [List.map_append, List.map_append, List.map_cons, Multiset.cons_swap]
  exact congrArg (parent ::ₘ ·) (Multiset.coe_eq_coe.mpr List.perm_middle)

/-- One program gives way to the rest of it, once for each process that goes on. -/
theorem cutExpand_cons (first rest : Multiset (Program Call Answer α))
    {program : Program Call Answer α} (behind : ∀ left ∈ first, Behind left program) :
    CutExpand Behind (first + rest) (program ::ₘ rest) := by
  rw [← Multiset.singleton_add]
  exact (cutExpand_add_right rest).mpr (cutExpand_singleton behind)

theorem behind_call {request : Call} (next : Answer request → Program Call Answer α)
    {goesOn : Multiset (Program Call Answer α)}
    (each : ∀ left ∈ goesOn, ∃ answer, left = next answer) :
    ∀ left ∈ goesOn, Behind left (.call request next) := by
  intro left member
  obtain ⟨answer, same⟩ := each left member
  exact ⟨request, next, answer, rfl, same⟩

theorem step_cutExpand {now next : Family Call Answer α Store} (step : Step system now next) :
    TransGen (CutExpand Behind) (programs next) (programs now) := by
  cases step with
  | @parent _ _ next children plain answer =>
    exact .single (cutExpand_cons {next answer} (running children) (behind_call next (by simp)))
  | @forkFails _ _ next children outcome forks =>
    exact .single (cutExpand_cons {next (outcome.symm .failed)} (running children)
      (behind_call next (by simp)))
  | @fork _ _ next children outcome forks pid fresh =>
    exact .single (cutExpand_cons {next (outcome.symm (.parent pid)), next (outcome.symm .child)}
      (running children) (behind_call next (by simp)))
  | @wait store request next before after pid program waits ended answer =>
    rw [programs_middle]
    exact .head
      (cutExpand_cons {next answer} (running (before ++ after)) (behind_call next (by simp)))
      (.single (cutExpand_cons 0 (programs ⟨store, .call request next, before ++ after⟩) nofun))
  | @child store parent request next before after pid plain answer =>
    rw [programs_middle, programs_middle]
    exact .single (cutExpand_cons {next answer} (programs ⟨store, parent, before ++ after⟩)
      (behind_call next (by simp)))

/-- There is no run without an end. -/
theorem step_wellFounded (system : System Call Answer Store) :
    WellFounded fun next now : Family Call Answer α Store => Step system now next :=
  Subrelation.wf step_cutExpand
    (InvImage.wf programs behind_wellFounded.cutExpand.transGen)

/-- A family under a discipline comes to the end of all its processes. -/
theorem Supervised.ends {now : Family Call Answer α Store}
    (supervised : Supervised discipline post now) :
    ∃ store value, ReflTransGen (Step system) now ⟨store, .done value, []⟩ ∧ post value store := by
  induction now using (step_wellFounded system).induction with
  | h now ih =>
    cases supervised.progress with
    | inr ended =>
      obtain ⟨store, parent, children⟩ := now
      obtain ⟨rfl, value, rfl, holds⟩ := ended
      exact ⟨store, value, .refl, holds⟩
    | inl moves =>
      obtain ⟨next, step⟩ := moves
      obtain ⟨store, value, reached, holds⟩ := ih next step (step_supervised step supervised)
      exact ⟨store, value, .head step reached, holds⟩

end Termination

end MemoryDemo.Library.Processes
