import MemoryDemo.Library.CallTree
import Mathlib.Data.Multiset.AddSub

/-! Accounts of resources: a log of acquisitions, releases and uses is in order when what
is released or used is held at that time and nothing is held at the end. -/

namespace MemoryDemo.Library.Ledger
open CallTree

inductive Event (Resource : Type) where
  | acquire (resource : Resource)
  | release (resource : Resource)
  | use (resource : Resource)
  deriving DecidableEq, Repr

variable {Resource : Type} [DecidableEq Resource]

def acquired (resource : Resource) (log : List (Event Resource)) : Nat :=
  log.count (.acquire resource)

def released (resource : Resource) (log : List (Event Resource)) : Nat :=
  log.count (.release resource)

/-- Releases and uses need the resource to be held. -/
def Event.Needs (event : Event Resource) (resource : Resource) : Prop :=
  event = .release resource ∨ event = .use resource

/-- A resource is released or used only while it was acquired more often than released,
and in the end as often. -/
structure Accounted (log : List (Event Resource)) : Prop where
  held : ∀ before event after resource, log = before ++ event :: after → event.Needs resource →
    released resource before < acquired resource before
  settled : ∀ resource, released resource log = acquired resource log

/-- What is held after an event; `none` where it needs a resource that is not held. -/
def record (held : Multiset Resource) : Event Resource → Option (Multiset Resource)
  | .acquire resource => some (resource ::ₘ held)
  | .release resource => if resource ∈ held then some (held.erase resource) else none
  | .use resource => if resource ∈ held then some held else none

def replay (held : Multiset Resource) : List (Event Resource) → Option (Multiset Resource)
  | [] => some held
  | event :: log => (record held event).bind fun next => replay next log

theorem replay_append (held : Multiset Resource) (first second : List (Event Resource)) :
    replay held (first ++ second) = (replay held first).bind fun next => replay next second := by
  induction first generalizing held with
  | nil => rfl
  | cons event log ih =>
    simp only [List.cons_append, replay, Option.bind_assoc]
    congr 1
    funext next
    exact ih next

theorem record_count {held next : Multiset Resource} {event : Event Resource}
    (recorded : record held event = some next) (resource : Resource) :
    next.count resource + released resource [event] =
      held.count resource + acquired resource [event] := by
  cases event with
  | acquire other =>
    cases recorded
    by_cases same : resource = other
    · simp [released, acquired, same]
    · simp [released, acquired, same, Ne.symm same]
  | release other =>
    simp only [record, Option.ite_none_right_eq_some, Option.some.injEq] at recorded
    obtain ⟨member, rfl⟩ := recorded
    by_cases same : resource = other
    · subst same
      have positive := Multiset.count_pos.mpr member
      simp [released, acquired, Nat.sub_add_cancel positive]
    · simp [released, acquired, Multiset.count_erase_of_ne same, Ne.symm same]
  | use other =>
    simp only [record, Option.ite_none_right_eq_some, Option.some.injEq] at recorded
    obtain ⟨member, rfl⟩ := recorded
    simp [released, acquired]

theorem record_exists_iff (held : Multiset Resource) (event : Event Resource) :
    (∃ next, record held event = some next) ↔ ∀ resource, event.Needs resource → resource ∈ held := by
  cases event with
  | acquire other => simp [record, Event.Needs]
  | release other => simp [record, Event.Needs]
  | use other => simp [record, Event.Needs]

/-- `Accounted.held` for a log that starts with something held. -/
def Covered (held : Multiset Resource) (log : List (Event Resource)) : Prop :=
  ∀ before event after resource, log = before ++ event :: after → event.Needs resource →
    released resource before < held.count resource + acquired resource before

theorem acquired_cons (resource : Resource) (event : Event Resource) (log : List (Event Resource)) :
    acquired resource (event :: log) = acquired resource [event] + acquired resource log := by
  change List.count _ ([event] ++ log) = _
  rw [List.count_append]
  rfl

theorem released_cons (resource : Resource) (event : Event Resource) (log : List (Event Resource)) :
    released resource (event :: log) = released resource [event] + released resource log := by
  change List.count _ ([event] ++ log) = _
  rw [List.count_append]
  rfl

theorem covered_cons (held : Multiset Resource) (event : Event Resource)
    (log : List (Event Resource)) :
    Covered held (event :: log) ↔ ∃ next, record held event = some next ∧ Covered next log := by
  constructor
  · intro covered
    have needed : ∀ resource, event.Needs resource → resource ∈ held := by
      intro resource needs
      have positive := covered [] event log resource rfl needs
      exact Multiset.count_pos.mp (by simpa [released, acquired] using positive)
    obtain ⟨next, recorded⟩ := (record_exists_iff held event).mpr needed
    refine ⟨next, recorded, fun before later after resource same needs => ?_⟩
    have bound := covered (event :: before) later after resource (by rw [same]; rfl) needs
    have count := record_count recorded resource
    rw [acquired_cons, released_cons] at bound
    omega
  · rintro ⟨next, recorded, covered⟩ before later after resource same needs
    cases before with
    | nil =>
      obtain ⟨rfl, rfl⟩ := List.cons.inj same
      have member := (record_exists_iff held event).mp ⟨next, recorded⟩ resource needs
      simpa [released, acquired] using Multiset.count_pos.mpr member
    | cons first before =>
      obtain ⟨rfl, rest⟩ := List.cons.inj same
      have bound := covered before later after resource rest needs
      have count := record_count recorded resource
      rw [acquired_cons, released_cons]
      omega

theorem replay_exists_iff (held : Multiset Resource) (log : List (Event Resource)) :
    (∃ final, replay held log = some final) ↔ Covered held log := by
  induction log generalizing held with
  | nil =>
    refine ⟨fun _ before event after resource same => ?_, fun _ => ⟨held, rfl⟩⟩
    exact absurd same (by simp)
  | cons event log ih =>
    rw [covered_cons]
    constructor
    · rintro ⟨final, replayed⟩
      obtain ⟨next, recorded, rest⟩ := Option.bind_eq_some_iff.mp replayed
      exact ⟨next, recorded, (ih next).mp ⟨final, rest⟩⟩
    · rintro ⟨next, recorded, covered⟩
      obtain ⟨final, rest⟩ := (ih next).mpr covered
      exact ⟨final, Option.bind_eq_some_iff.mpr ⟨next, recorded, rest⟩⟩

theorem replay_count {held final : Multiset Resource} {log : List (Event Resource)}
    (replayed : replay held log = some final) (resource : Resource) :
    final.count resource + released resource log =
      held.count resource + acquired resource log := by
  induction log generalizing held with
  | nil =>
    cases replayed
    rfl
  | cons event log ih =>
    obtain ⟨next, recorded, rest⟩ := Option.bind_eq_some_iff.mp replayed
    have first := record_count recorded resource
    have later := ih rest
    rw [acquired_cons, released_cons]
    omega

/-- A log is in order exactly when it can be replayed from nothing to nothing. -/
theorem accounted_iff_replay (log : List (Event Resource)) :
    Accounted log ↔ replay 0 log = some 0 := by
  constructor
  · intro accounted
    have covered : Covered 0 log := by
      intro before event after resource same needs
      rw [Multiset.count_zero, Nat.zero_add]
      exact accounted.held before event after resource same needs
    obtain ⟨final, replayed⟩ := (replay_exists_iff 0 log).mpr covered
    have nothing : final = 0 := by
      ext resource
      have count := replay_count replayed resource
      have settled := accounted.settled resource
      rw [Multiset.count_zero] at count ⊢
      omega
    rw [replayed, nothing]
  · intro replayed
    have covered := (replay_exists_iff 0 log).mp ⟨0, replayed⟩
    refine ⟨fun before event after resource same needs => ?_, fun resource => ?_⟩
    · have bound := covered before event after resource same needs
      rwa [Multiset.count_zero, Nat.zero_add] at bound
    · have count := replay_count replayed resource
      rw [Multiset.count_zero, Nat.zero_add, Nat.zero_add] at count
      exact count

section Programs
variable {Call : Type} {Answer : Call → Type} {α : Type}
  (effect : Exchange Call Answer → List (Event Resource))

/-- The monitor of a program whose exchanges acquire, release and use resources. -/
def holding (held : Multiset Resource) (exchange : Exchange Call Answer) :
    Option (Multiset Resource) :=
  replay held (effect exchange)

theorem follow_holding (held : Multiset Resource) (log : List (Exchange Call Answer)) :
    follow (holding effect) held log = replay held (log.flatMap effect) := by
  induction log generalizing held with
  | nil => rfl
  | cons exchange log ih =>
    rw [List.flatMap_cons, replay_append]
    simp only [follow, holding, ih]

/-- A call without events leaves what is held as it is. -/
theorem safe_ask_silent (request : Call) (silent : ∀ answer, effect ⟨request, answer⟩ = [])
    (held : Multiset Resource) (post : Answer request → Multiset Resource → Prop) :
    Safe (holding effect) (Program.ask request) held post ↔ ∀ answer, post answer held := by
  apply safe_ask_moves
  intro answer
  rw [holding, silent, replay]

theorem safe_ask_use (request : Call) {resource : Resource}
    (uses : ∀ answer, effect ⟨request, answer⟩ = [.use resource]) (held : Multiset Resource)
    (post : Answer request → Multiset Resource → Prop) (member : resource ∈ held) :
    Safe (holding effect) (Program.ask request) held post ↔ ∀ answer, post answer held := by
  apply safe_ask_moves
  intro answer
  rw [holding, uses, replay, record, if_pos member]
  rfl

theorem safe_ask_release (request : Call) {resource : Resource}
    (releases : ∀ answer, effect ⟨request, answer⟩ = [.release resource])
    (held : Multiset Resource) (post : Answer request → Multiset Resource → Prop) :
    Safe (holding effect) (Program.ask request) (resource ::ₘ held) post ↔
      ∀ answer, post answer held := by
  apply safe_ask_moves
  intro answer
  rw [holding, releases, replay, record, if_pos (Multiset.mem_cons_self _ _),
    Multiset.erase_cons_head]
  rfl

variable {effect}

/-- A safe run that returns can be replayed from what was held before it. -/
theorem replay_of_safe {program : Program Call Answer α} {held : Multiset Resource}
    {post : α → Multiset Resource → Prop} (safe : Safe (holding effect) program held post)
    (environment : Environment Call Answer) (past : List (Exchange Call Answer)) {value : α}
    (returned : (run environment past program).result = some value) :
    ∃ final, replay held ((run environment past program).log.flatMap effect) = some final ∧
      post value final := by
  obtain ⟨final, followed, holds⟩ := safe.run environment past
  rw [follow_holding] at followed
  exact ⟨final, followed, holds value returned⟩

/-- A program that is safe from nothing to nothing keeps its accounts in order on every
run that returns. -/
theorem accounted_of_safe {program : Program Call Answer α}
    (safe : Safe (holding effect) program 0 fun _ held => held = 0)
    (environment : Environment Call Answer) {value : α}
    (returned : (run environment [] program).result = some value) :
    Accounted ((run environment [] program).log.flatMap effect) := by
  obtain ⟨final, replayed, nothing⟩ := replay_of_safe safe environment [] returned
  rw [accounted_iff_replay, replayed, nothing]

end Programs

end MemoryDemo.Library.Ledger
