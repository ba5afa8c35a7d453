import Mathlib.Data.List.Basic

/-! Systems that take one action after another, and what holds in every state of a run. -/

namespace MemoryDemo.Library.Transition

section
variable {State Action : Type*} (step : State → Action → Option State)

/-- A run records every state in which an action was taken, with that action, and the
state it ends in; `none` means that an action was not possible. -/
def run : State → List Action → Option (List (State × Action) × State)
  | state, [] => some ([], state)
  | state, action :: rest =>
      (step state action).bind fun next =>
        (run next rest).map fun later => ((state, action) :: later.1, later.2)

theorem run_cons {state last : State} {action : Action} {rest : List Action}
    {taken : List (State × Action)}
    (ran : run step state (action :: rest) = some (taken, last)) :
    ∃ next later, step state action = some next ∧ run step next rest = some (later, last) ∧
      taken = (state, action) :: later := by
  simp only [run, Option.bind_eq_some_iff, Option.map_eq_some_iff, Prod.mk.injEq] at ran
  obtain ⟨next, stepped, ⟨later, last'⟩, ran', rfl, rfl⟩ := ran
  exact ⟨next, later, stepped, ran', rfl⟩

theorem run_append {state middle last : State} {first second : List Action}
    {taken later : List (State × Action)} (ran : run step state first = some (taken, middle))
    (ran_on : run step middle second = some (later, last)) :
    run step state (first ++ second) = some (taken ++ later, last) := by
  induction first generalizing state taken with
  | nil =>
    cases ran
    exact ran_on
  | cons action rest ih =>
    obtain ⟨next, others, stepped, ran', rfl⟩ := run_cons step ran
    rw [List.cons_append, run, stepped, Option.bind_some, ih ran']
    rfl

/-- If a step out of a good state leads to a good state exactly when it is allowed, then
all states of a run are good exactly when all of its steps are allowed. -/
theorem run_good_iff (good : State → Prop) (allowed : State → Action → Prop)
    (exact : ∀ state action next, step state action = some next → good state →
      (good next ↔ allowed state action))
    (actions : List Action) (state last : State) (taken : List (State × Action))
    (ran : run step state actions = some (taken, last)) (start : good state) :
    ((∀ pair ∈ taken, good pair.1) ∧ good last ↔ ∀ pair ∈ taken, allowed pair.1 pair.2) := by
  induction actions generalizing state taken with
  | nil =>
    simp only [run, Option.some.injEq, Prod.mk.injEq] at ran
    obtain ⟨rfl, rfl⟩ := ran
    simp [start]
  | cons action rest ih =>
    obtain ⟨next, later, stepped, ran', rfl⟩ := run_cons step ran
    have here := exact state action next stepped start
    simp only [List.forall_mem_cons]
    constructor
    · rintro ⟨⟨_, goods⟩, ending⟩
      have nextGood : good next := by
        cases rest with
        | nil =>
          simp only [run, Option.some.injEq, Prod.mk.injEq] at ran'
          rw [ran'.2]
          exact ending
        | cons other others =>
          obtain ⟨_, _, _, _, rfl⟩ := run_cons step ran'
          exact goods _ (List.mem_cons_self ..)
      exact ⟨here.mp nextGood, (ih next later ran' nextGood).mp ⟨goods, ending⟩⟩
    · rintro ⟨first, others⟩
      have nextGood := here.mpr first
      obtain ⟨goods, ending⟩ := (ih next later ran' nextGood).mpr others
      exact ⟨⟨start, goods⟩, ending⟩

/-- What every step keeps holds of the state in which a run ends. -/
theorem run_keeps (good : State → Prop)
    (keeps : ∀ state action next, step state action = some next → good state → good next)
    {actions : List Action} {state last : State} {taken : List (State × Action)}
    (ran : run step state actions = some (taken, last)) (start : good state) : good last := by
  have all := run_good_iff step good (fun _ _ => True) (fun state action next stepped here =>
    iff_true_intro (keeps state action next stepped here)) actions state last taken ran start
  exact (all.mpr fun _ _ => trivial).2

end

end MemoryDemo.Library.Transition
