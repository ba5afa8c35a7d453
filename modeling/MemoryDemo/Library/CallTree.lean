import Mathlib.Tactic.Common

/-! Programs as trees of calls whose answers the environment chooses, and invariants of
their runs by a monitor that follows every exchange. -/

namespace MemoryDemo.Library.CallTree

/-- A program returns, ends the process, or makes a call and goes on with the answer. -/
inductive Program (Call : Type) (Answer : Call → Type) (α : Type) : Type where
  | done (value : α)
  | halt
  | call (request : Call) (next : Answer request → Program Call Answer α)

variable {Call : Type} {Answer : Call → Type} {α β γ : Type}

namespace Program

def bind : Program Call Answer α → (α → Program Call Answer β) → Program Call Answer β
  | .done value, next => next value
  | .halt, _ => .halt
  | .call request rest, next => .call request fun answer => (rest answer).bind next

instance : Monad (Program Call Answer) where
  pure := .done
  bind := .bind

def ask (request : Call) : Program Call Answer (Answer request) :=
  .call request .done

theorem bind_assoc (program : Program Call Answer α) (first : α → Program Call Answer β)
    (second : β → Program Call Answer γ) :
    program >>= first >>= second = program >>= fun value => first value >>= second := by
  induction program with
  | done value => rfl
  | halt => rfl
  | call request rest ih =>
    change Program.call request _ = Program.call request _
    congr 1
    funext answer
    exact ih answer

end Program

/-- A call together with its answer. -/
abbrev Exchange (Call : Type) (Answer : Call → Type) : Type :=
  (request : Call) × Answer request

/-- The environment answers a call by what was exchanged before it. -/
abbrev Environment (Call : Type) (Answer : Call → Type) : Type :=
  List (Exchange Call Answer) → (request : Call) → Answer request

/-- The exchanges of a run, and the value it returns unless the process ends in it. -/
structure Run (Call : Type) (Answer : Call → Type) (α : Type) where
  log : List (Exchange Call Answer)
  result : Option α

def run (environment : Environment Call Answer) :
    List (Exchange Call Answer) → Program Call Answer α → Run Call Answer α
  | _, .done value => ⟨[], some value⟩
  | _, .halt => ⟨[], none⟩
  | past, .call request next =>
    let exchange : Exchange Call Answer := ⟨request, environment past request⟩
    let rest := run environment (past ++ [exchange]) (next exchange.2)
    ⟨exchange :: rest.log, rest.result⟩

theorem run_ask (environment : Environment Call Answer) (past : List (Exchange Call Answer))
    (request : Call) (next : Answer request → Program Call Answer β) {answer : Answer request}
    (answered : environment past request = answer) :
    run environment past (Program.ask request >>= next) =
      ⟨⟨request, answer⟩ :: (run environment (past ++ [⟨request, answer⟩]) (next answer)).log,
        (run environment (past ++ [⟨request, answer⟩]) (next answer)).result⟩ := by
  subst answered
  rfl

/-- A program that returns is run first, and what follows runs with its exchanges in the
past. -/
theorem run_bind (environment : Environment Call Answer) (past : List (Exchange Call Answer))
    (program : Program Call Answer α) (next : α → Program Call Answer β) {value : α}
    (returned : (run environment past program).result = some value) :
    run environment past (program >>= next) =
      ⟨(run environment past program).log ++
          (run environment (past ++ (run environment past program).log) (next value)).log,
        (run environment (past ++ (run environment past program).log) (next value)).result⟩ := by
  induction program generalizing past with
  | done result =>
    cases returned
    change run environment past (next value) = _
    simp only [run, List.append_nil, List.nil_append]
  | halt => cases returned
  | call request rest ih =>
    have later := ih (environment past request) (past ++ [⟨request, environment past request⟩])
      returned
    rw [List.append_assoc] at later
    change Run.mk (_ :: (run environment _ (rest _ >>= next)).log)
      (run environment _ (rest _ >>= next)).result = _
    rw [later]
    rfl

/-- Whatever the answers are, the program does not end the process. -/
def Returns : Program Call Answer α → Prop
  | .done _ => True
  | .halt => False
  | .call _ next => ∀ answer, Returns (next answer)

theorem Returns.bind {program : Program Call Answer α} {next : α → Program Call Answer β}
    (first : Returns program) (rest : ∀ value, Returns (next value)) :
    Returns (program >>= next) := by
  induction program with
  | done value => exact rest value
  | halt => exact first.elim
  | call request _ ih => exact fun answer => ih answer (first answer)

theorem Returns.run {program : Program Call Answer α} (returns : Returns program)
    (environment : Environment Call Answer) (past : List (Exchange Call Answer)) :
    ∃ value, (run environment past program).result = some value := by
  induction program generalizing past with
  | done value => exact ⟨value, rfl⟩
  | halt => exact returns.elim
  | call request _ ih => exact ih _ (returns _) (past ++ [⟨request, environment past request⟩])

/-- No way through the program makes one of these calls. -/
def Avoids (calls : Call → Bool) : Program Call Answer α → Prop
  | .done _ | .halt => True
  | .call request next => calls request = false ∧ ∀ answer, Avoids calls (next answer)

theorem Avoids.bind {calls : Call → Bool} {program : Program Call Answer α}
    {next : α → Program Call Answer β} (first : Avoids calls program)
    (rest : ∀ value, Avoids calls (next value)) : Avoids calls (program >>= next) := by
  induction program with
  | done value => exact rest value
  | halt => trivial
  | call request _ ih => exact ⟨first.1, fun answer => ih answer (first.2 answer)⟩

theorem Avoids.run {calls : Call → Bool} {program : Program Call Answer α}
    (avoids : Avoids calls program) (environment : Environment Call Answer)
    (past : List (Exchange Call Answer)) :
    ∀ exchange ∈ (run environment past program).log, calls exchange.1 = false := by
  induction program generalizing past with
  | done value => nofun
  | halt => nofun
  | call request next ih =>
    intro exchange member
    rcases List.mem_cons.mp member with rfl | later
    · exact avoids.1
    · exact ih _ (avoids.2 _) _ exchange later

section Monitor
variable {State : Type} (monitor : State → Exchange Call Answer → Option State)

def follow (state : State) : List (Exchange Call Answer) → Option State
  | [] => some state
  | exchange :: log => (monitor state exchange).bind fun next => follow next log

theorem follow_append (state : State) (first second : List (Exchange Call Answer)) :
    follow monitor state (first ++ second) =
      (follow monitor state first).bind fun next => follow monitor next second := by
  induction first generalizing state with
  | nil => rfl
  | cons exchange log ih =>
    simp only [List.cons_append, follow, Option.bind_assoc]
    congr 1
    funext next
    exact ih next

/-- Whatever the answers are, the monitor follows every exchange, and the condition holds
of the value returned and the state then. -/
def Safe : Program Call Answer α → State → (α → State → Prop) → Prop
  | .done value, state, post => post value state
  | .halt, _, _ => True
  | .call request next, state, post =>
    ∀ answer, ∃ after, monitor state ⟨request, answer⟩ = some after ∧ Safe (next answer) after post

theorem safe_pure (value : α) (state : State) (post : α → State → Prop) :
    Safe monitor (pure value : Program Call Answer α) state post ↔ post value state :=
  Iff.rfl

theorem safe_halt (state : State) (post : α → State → Prop) :
    Safe monitor (Program.halt : Program Call Answer α) state post ↔ True :=
  Iff.rfl

theorem safe_ask (request : Call) (state : State) (post : Answer request → State → Prop) :
    Safe monitor (Program.ask request) state post ↔
      ∀ answer, ∃ after, monitor state ⟨request, answer⟩ = some after ∧ post answer after :=
  Iff.rfl

/-- A call that moves the monitor to one state, whatever the answer. -/
theorem safe_ask_moves (request : Call) {state next : State}
    (moves : ∀ answer, monitor state ⟨request, answer⟩ = some next)
    (post : Answer request → State → Prop) :
    Safe monitor (Program.ask request) state post ↔ ∀ answer, post answer next := by
  simp only [safe_ask, moves, Option.some.injEq, exists_eq_left']

/-- A call that either fails or answers with an id. -/
theorem safe_ask_answer (request : Call) {Id : Type} {failed : Answer request}
    {given : Id → Answer request} {state next : State} {after : Id → State}
    (answers : ∀ holds : Answer request → Prop,
      (∀ answer, holds answer) ↔ holds failed ∧ ∀ id, holds (given id))
    (refused : monitor state ⟨request, failed⟩ = some next)
    (granted : ∀ id, monitor state ⟨request, given id⟩ = some (after id))
    (post : Answer request → State → Prop) :
    Safe monitor (Program.ask request) state post ↔
      post failed next ∧ ∀ id, post (given id) (after id) := by
  rw [safe_ask, answers]
  simp only [refused, granted, Option.some.injEq, exists_eq_left']

theorem safe_bind (program : Program Call Answer α) (next : α → Program Call Answer β)
    (state : State) (post : β → State → Prop) :
    Safe monitor (program >>= next) state post ↔
      Safe monitor program state fun value after => Safe monitor (next value) after post := by
  induction program generalizing state with
  | done value => exact Iff.rfl
  | halt => exact Iff.rfl
  | call request rest ih =>
    constructor
    · intro safe answer
      obtain ⟨after, followed, left⟩ := safe answer
      exact ⟨after, followed, (ih answer after).mp left⟩
    · intro safe answer
      obtain ⟨after, followed, left⟩ := safe answer
      exact ⟨after, followed, (ih answer after).mpr left⟩

variable {monitor}

theorem Safe.mono {program : Program Call Answer α} {state : State}
    {post weaker : α → State → Prop} (safe : Safe monitor program state post)
    (implies : ∀ value after, post value after → weaker value after) :
    Safe monitor program state weaker := by
  induction program generalizing state with
  | done value => exact implies value state safe
  | halt => trivial
  | call request next ih =>
    intro answer
    obtain ⟨after, followed, left⟩ := safe answer
    exact ⟨after, followed, ih answer left⟩

/-- A safe program is followed along its whole run in every environment. -/
theorem Safe.run {program : Program Call Answer α} {state : State} {post : α → State → Prop}
    (safe : Safe monitor program state post) (environment : Environment Call Answer)
    (past : List (Exchange Call Answer)) :
    ∃ final, follow monitor state (run environment past program).log = some final ∧
      ∀ value, (run environment past program).result = some value → post value final := by
  induction program generalizing state past with
  | done value =>
    refine ⟨state, rfl, fun returned same => ?_⟩
    cases same
    exact safe
  | halt => exact ⟨state, rfl, fun returned same => nomatch same⟩
  | call request next ih =>
    obtain ⟨after, followed, left⟩ := safe (environment past request)
    obtain ⟨final, rest, holds⟩ :=
      ih _ left (past ++ [⟨request, environment past request⟩])
    refine ⟨final, ?_, holds⟩
    change (monitor state ⟨request, environment past request⟩).bind _ = some final
    rw [followed]
    exact rest

section Recording
variable (monitor)

/-- The monitor keeps the exchanges that it follows beside its state. -/
def recording (seen : State × List (Exchange Call Answer)) (exchange : Exchange Call Answer) :
    Option (State × List (Exchange Call Answer)) :=
  (monitor seen.1 exchange).map fun next => (next, seen.2 ++ [exchange])

theorem follow_recording (state : State) (past log : List (Exchange Call Answer)) :
    follow (recording monitor) (state, past) log =
      (follow monitor state log).map fun final => (final, past ++ log) := by
  induction log generalizing state past with
  | nil => simp only [follow, Option.map_some, List.append_nil]
  | cons exchange log ih =>
    cases followed : monitor state exchange with
    | none => simp only [follow, recording, followed, Option.map_none, Option.bind_none]
    | some next =>
      simp only [follow, recording, followed, Option.map_some, Option.bind_some]
      rw [ih, List.append_assoc]
      rfl

end Recording

/-- The condition can be about the exchanges of the run as well. -/
theorem Safe.run_recording {program : Program Call Answer α} {state : State}
    {post : α → State × List (Exchange Call Answer) → Prop}
    (safe : Safe (recording monitor) program (state, []) post)
    (environment : Environment Call Answer) (past : List (Exchange Call Answer)) :
    ∃ final, follow monitor state (CallTree.run environment past program).log = some final ∧
      ∀ value, (CallTree.run environment past program).result = some value →
        post value (final, (CallTree.run environment past program).log) := by
  obtain ⟨⟨final, log⟩, followed, holds⟩ := safe.run environment past
  rw [follow_recording] at followed
  obtain ⟨last, along, same⟩ := Option.map_eq_some_iff.mp followed
  cases same
  exact ⟨final, along, holds⟩

end Monitor

end MemoryDemo.Library.CallTree
