import Mathlib.Algebra.Order.Group.Multiset
import MemoryDemo.Library.Ledger

/-! Programs that give back what they acquire, but for what some of their exchanges leave
behind for good. -/

namespace MemoryDemo.Library.Leftovers
open CallTree Ledger

variable {Call : Type} {Answer : Call → Type} {α β Resource : Type}
  (effect : Exchange Call Answer → List (Event Resource))
  (left : Exchange Call Answer → Option Resource)

/-- Whatever the answers are, no exchange leaves anything. -/
def Clean : Program Call Answer α → Prop
  | .done _ => True
  | .halt => True
  | .call request next => ∀ answer, left ⟨request, answer⟩ = none ∧ Clean (next answer)

theorem clean_ask {request : Call} (nothing : ∀ answer, left ⟨request, answer⟩ = none) :
    Clean left (Program.ask request) :=
  fun answer => ⟨nothing answer, trivial⟩

variable {left}

theorem Clean.bind {program : Program Call Answer α} {next : α → Program Call Answer β}
    (first : Clean left program) (rest : ∀ value, Clean left (next value)) :
    Clean left (program >>= next) := by
  induction program with
  | done value => exact rest value
  | halt => trivial
  | call request _ ih => exact fun answer => ⟨(first answer).1, ih answer (first answer).2⟩

theorem Clean.log {program : Program Call Answer α} (clean : Clean left program)
    (environment : Environment Call Answer) (past : List (Exchange Call Answer)) :
    (run environment past program).log.filterMap left = [] := by
  induction program generalizing past with
  | done value => rfl
  | halt => rfl
  | call request next ih =>
    obtain ⟨nothing, later⟩ := clean (environment past request)
    have rest := ih _ later (past ++ [⟨request, environment past request⟩])
    change List.filterMap left (_ :: (run environment _ (next _)).log) = []
    rw [List.filterMap_cons_none nothing, rest]

/-- A run that returns from a sequence has returned from its first part. -/
theorem result_of_bind {program : Program Call Answer α} {next : α → Program Call Answer β}
    {environment : Environment Call Answer} {past : List (Exchange Call Answer)} {value : β}
    (returned : (run environment past (program >>= next)).result = some value) :
    ∃ first, (run environment past program).result = some first := by
  induction program generalizing past with
  | done first => exact ⟨first, rfl⟩
  | halt => cases returned
  | call request rest ih => exact ih _ returned

variable [DecidableEq Resource] {effect}

theorem replay_of_clean {program : Program Call Answer α} (clean : Clean left program)
    {before held : Multiset Resource}
    (keeps : Safe (holding effect) program before fun _ after => after = held)
    {environment : Environment Call Answer} {past : List (Exchange Call Answer)} {value : α}
    (returned : (run environment past program).result = some value) :
    replay before ((run environment past program).log.flatMap effect) =
      some (((run environment past program).log.filterMap left : Multiset Resource) + held) := by
  obtain ⟨final, replayed, same⟩ := replay_of_safe keeps environment past returned
  rw [clean.log environment past, replayed, same, Multiset.coe_nil, zero_add]

variable (effect left) in
/-- Every run that returns holds what it held before, and what it has left. -/
def Leaves (program : Program Call Answer α) : Prop :=
  ∀ environment past held value, (run environment past program).result = some value →
    replay held ((run environment past program).log.flatMap effect) =
      some (((run environment past program).log.filterMap left : Multiset Resource) + held)

theorem leaves_of_clean {program : Program Call Answer α} (clean : Clean left program)
    (keeps : ∀ held, Safe (holding effect) program held fun _ after => after = held) :
    Leaves effect left program :=
  fun _ _ held _ returned => replay_of_clean clean (keeps held) returned

/-- What two programs leave adds up. -/
theorem Leaves.bind {program : Program Call Answer α} {next : α → Program Call Answer β}
    (one : Leaves effect left program) (other : ∀ value, Leaves effect left (next value)) :
    Leaves effect left (program >>= next) := by
  intro environment past held value returned
  obtain ⟨first, done⟩ := result_of_bind returned
  have split := run_bind environment past program next done
  rw [split] at returned ⊢
  rw [List.flatMap_append, replay_append, one environment past held first done, Option.bind_some,
    other first environment _ _ value returned, List.filterMap_append, ← Multiset.coe_add,
    add_left_comm, ← add_assoc]

/-- From nothing held, the accounts are in order if and only if nothing is left. -/
theorem Leaves.accounted_iff {program : Program Call Answer α}
    (leaves : Leaves effect left program) {environment : Environment Call Answer} {value : α}
    (returned : (run environment [] program).result = some value) :
    Accounted ((run environment [] program).log.flatMap effect) ↔
      (run environment [] program).log.filterMap left = [] := by
  rw [accounted_iff_replay, leaves environment [] 0 value returned, add_zero, Option.some.injEq,
    Multiset.coe_eq_zero]

end MemoryDemo.Library.Leftovers
