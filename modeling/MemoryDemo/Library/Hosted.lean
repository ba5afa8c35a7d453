import MemoryDemo.Library.CallTree

/-! Programs over a host whose state decides which answers a call can have, and what becomes
of the state. -/

namespace MemoryDemo.Library.Hosted
open CallTree

/-- The states that an exchange can lead to; none where the host does not answer so. -/
abbrev Host (Call : Type) (Answer : Call → Type) (State : Type) : Type :=
  State → Exchange Call Answer → State → Prop

variable {Call : Type} {Answer : Call → Type} {State α β : Type}

section
variable (host : Host Call Answer State)

/-- A run to the end of a program: the state it leaves, and the value it returns unless the
process ends in it. -/
inductive Runs : Program Call Answer α → State → State → Option α → Prop where
  | done (value : α) (state : State) : Runs (.done value) state state (some value)
  | halt (state : State) : Runs .halt state state none
  | call {request : Call} {next : Answer request → Program Call Answer α}
      {answer : Answer request} {state middle last : State} {result : Option α}
      (first : host state ⟨request, answer⟩ middle) (rest : Runs (next answer) middle last result) :
      Runs (.call request next) state last result

/-- Every call has an answer, and whatever the answers are, one condition holds of the value
returned and the state then, and another one of the state in which the process ends before. -/
def Sure (halted : State → Prop) : Program Call Answer α → State → (α → State → Prop) → Prop
  | .done value, state, post => post value state
  | .halt, state, _ => halted state
  | .call request next, state, post =>
    (∃ answer after, host state ⟨request, answer⟩ after) ∧
      ∀ answer after, host state ⟨request, answer⟩ after → Sure halted (next answer) after post

/-- With some answers the program returns, and the condition holds then. -/
def Can : Program Call Answer α → State → (α → State → Prop) → Prop
  | .done value, state, post => post value state
  | .halt, _, _ => False
  | .call request next, state, post =>
    ∃ answer after, host state ⟨request, answer⟩ after ∧ Can (next answer) after post

variable (halted : State → Prop)

theorem sure_ask (request : Call) (state : State) (post : Answer request → State → Prop) :
    Sure host halted (Program.ask request) state post ↔
      (∃ answer after, host state ⟨request, answer⟩ after) ∧
        ∀ answer after, host state ⟨request, answer⟩ after → post answer after :=
  Iff.rfl

theorem sure_bind (program : Program Call Answer α) (next : α → Program Call Answer β)
    (state : State) (post : β → State → Prop) :
    Sure host halted (program >>= next) state post ↔
      Sure host halted program state fun value after => Sure host halted (next value) after post := by
  induction program generalizing state with
  | done value => exact Iff.rfl
  | halt => exact Iff.rfl
  | call request rest ih =>
    change (_ ∧ ∀ answer after, _ → Sure host halted (rest answer >>= next) after post) ↔ _ ∧ _
    simp only [ih]

theorem can_bind (program : Program Call Answer α) (next : α → Program Call Answer β)
    (state : State) (post : β → State → Prop) :
    Can host (program >>= next) state post ↔
      Can host program state fun value after => Can host (next value) after post := by
  induction program generalizing state with
  | done value => exact Iff.rfl
  | halt => exact Iff.rfl
  | call request rest ih =>
    change (∃ answer after, _ ∧ Can host (rest answer >>= next) after post) ↔ _
    simp only [ih]
    exact Iff.rfl

end

/-- The process does not end before the program returns. -/
def never : State → Prop :=
  fun _ => False

variable {host : Host Call Answer State} {halted : State → Prop}

theorem can_ask {request : Call} {state after : State} {answer : Answer request}
    {post : Answer request → State → Prop} (served : host state ⟨request, answer⟩ after)
    (holds : post answer after) : Can host (Program.ask request) state post :=
  ⟨answer, after, served, holds⟩

theorem Sure.mono {program : Program Call Answer α} {state : State}
    {post weaker : α → State → Prop} (sure : Sure host halted program state post)
    (implies : ∀ value after, post value after → weaker value after) :
    Sure host halted program state weaker := by
  induction program generalizing state with
  | done value => exact implies value state sure
  | halt => exact sure
  | call request next ih =>
    exact ⟨sure.1, fun answer after served => ih answer (sure.2 answer after served)⟩

theorem Can.mono {program : Program Call Answer α} {state : State}
    {post weaker : α → State → Prop} (can : Can host program state post)
    (implies : ∀ value after, post value after → weaker value after) :
    Can host program state weaker := by
  induction program generalizing state with
  | done value => exact implies value state can
  | halt => exact can
  | call request next ih =>
    obtain ⟨answer, after, served, rest⟩ := can
    exact ⟨answer, after, served, ih answer rest⟩

theorem Sure.run {program : Program Call Answer α} {state last : State} {value : α}
    {post : α → State → Prop} (sure : Sure host halted program state post)
    (ran : Runs host program state last (some value)) : post value last := by
  generalize returned : some value = result at ran
  induction ran with
  | done value state =>
    cases returned
    exact sure
  | halt state => cases returned
  | call first rest ih => exact ih (sure.2 _ _ first) returned

/-- What is never cut short returns with some answers. -/
theorem Sure.can {program : Program Call Answer α} {state : State} {post : α → State → Prop}
    (sure : Sure host never program state post) : Can host program state post := by
  induction program generalizing state with
  | done value => exact sure
  | halt => exact sure
  | call request next ih =>
    obtain ⟨⟨answer, after, served⟩, rest⟩ := sure
    exact ⟨answer, after, served, ih answer (rest answer after served)⟩

theorem Can.runs {program : Program Call Answer α} {state : State} {post : α → State → Prop}
    (can : Can host program state post) :
    ∃ value last, Runs host program state last (some value) ∧ post value last := by
  induction program generalizing state with
  | done value => exact ⟨value, state, .done value state, can⟩
  | halt => exact can.elim
  | call request next ih =>
    obtain ⟨answer, after, served, rest⟩ := can
    obtain ⟨value, last, ran, holds⟩ := ih answer rest
    exact ⟨value, last, .call served ran, holds⟩

end MemoryDemo.Library.Hosted
