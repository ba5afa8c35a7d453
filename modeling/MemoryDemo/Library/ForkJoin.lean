import MemoryDemo.Library.Transition

/-! A parent and a child that run side by side over one store, and a parent that waits for
the end of its child. What the parent finds behind the wait does not depend on the order in
which the two have taken their steps. -/

namespace MemoryDemo.Library.ForkJoin
open Transition

/-- How instructions act on the store, which of them block, and what others do to it. -/
structure Machine (Store Instruction Event : Type*) where
  waits : Instruction → Bool
  ready : Instruction → Store → Bool
  act : Instruction → Store → Store
  outside : Event → Store → Store

/-- The store, and what the two processes still have to do. -/
structure Processes (Store Instruction : Type*) where
  store : Store
  parent : List Instruction
  child : List Instruction

/-- Who takes the next step. -/
inductive Move (Event : Type*) where
  | parent
  | child
  | outside (event : Event)

variable {Store Instruction Event Seen : Type*}

section
variable (machine : Machine Store Instruction Event)

/-- An instruction that waits is possible once the child has nothing left to do. -/
def step (now : Processes Store Instruction) : Move Event → Option (Processes Store Instruction)
  | .parent =>
    match now.parent with
    | [] => none
    | instruction :: rest =>
      if machine.ready instruction now.store ∧ (machine.waits instruction → now.child.isEmpty) then
        some ⟨machine.act instruction now.store, rest, now.child⟩
      else none
  | .child =>
    match now.child with
    | [] => none
    | instruction :: rest =>
      if machine.ready instruction now.store then
        some ⟨machine.act instruction now.store, now.parent, rest⟩
      else none
  | .outside event => some { now with store := machine.outside event now.store }

/-- A part of the store on which every instruction acts alone, and others not at all. -/
structure View (Seen : Type*) where
  view : Store → Seen
  effect : Instruction → Seen → Seen
  acts : ∀ instruction store, view (machine.act instruction store) = effect instruction (view store)
  outside : ∀ event store, view (machine.outside event store) = view store

variable {machine}

/-- An instruction that leaves what is seen as it is. -/
def View.Silent (view : View machine Seen) (instruction : Instruction) : Prop :=
  ∀ seen, view.effect instruction seen = seen

/-- What is seen after some instructions. -/
def View.after (view : View machine Seen) (instructions : List Instruction) (seen : Seen) : Seen :=
  instructions.foldl (fun seen instruction => view.effect instruction seen) seen

theorem View.after_append (view : View machine Seen) (first second : List Instruction)
    (seen : Seen) : view.after (first ++ second) seen = view.after second (view.after first seen) :=
  List.foldl_append ..

theorem View.view_foldl (view : View machine Seen) (instructions : List Instruction)
    (store : Store) :
    view.view (instructions.foldl (fun store instruction => machine.act instruction store) store) =
      view.after instructions (view.view store) := by
  induction instructions generalizing store with
  | nil => rfl
  | cons instruction rest ih =>
    rw [List.foldl_cons, ih, view.acts]
    rfl

theorem View.after_silent (view : View machine Seen) {instructions : List Instruction}
    (silent : ∀ instruction ∈ instructions, view.Silent instruction) (seen : Seen) :
    view.after instructions seen = seen := by
  induction instructions generalizing seen with
  | nil => rfl
  | cons instruction rest ih =>
    change view.after rest (view.effect instruction seen) = seen
    rw [silent instruction List.mem_cons_self]
    exact ih (fun other member => silent other (List.mem_cons_of_mem _ member)) seen

/-- Where two processes stand that started together: what each has done, that the child has
ended if the parent has passed a wait, and that a silent parent leaves the view to the child. -/
structure Follows (view : View machine Seen) (start now : Processes Store Instruction)
    (parentDone childDone : List Instruction) : Prop where
  parent : start.parent = parentDone ++ now.parent
  child : start.child = childDone ++ now.child
  joined : (∃ instruction ∈ parentDone, machine.waits instruction = true) → now.child = []
  seen : (∀ instruction ∈ parentDone, view.Silent instruction) →
    view.view now.store = view.after childDone (view.view start.store)

theorem step_follows (view : View machine Seen) {start now next : Processes Store Instruction}
    {move : Move Event} (stepped : step machine now move = some next)
    (follows : ∃ parentDone childDone, Follows view start now parentDone childDone) :
    ∃ parentDone childDone, Follows view start next parentDone childDone := by
  obtain ⟨parentDone, childDone, parent, child, joined, seen⟩ := follows
  cases move with
  | outside event =>
    cases stepped
    exact ⟨parentDone, childDone, parent, child, joined, fun silent => by
      rw [view.outside, seen silent]⟩
  | parent =>
    obtain ⟨store, parents, children⟩ := now
    cases parents with
    | nil => cases stepped
    | cons instruction rest =>
      simp only [step, Option.ite_none_right_eq_some, Option.some.injEq] at stepped
      obtain ⟨⟨ready, waited⟩, rfl⟩ := stepped
      refine ⟨parentDone ++ [instruction], childDone, ?_, child, ?_, ?_⟩
      · rw [parent, List.append_assoc]
        rfl
      · rintro ⟨other, member, waits⟩
        rcases List.mem_append.mp member with earlier | itself
        · exact joined ⟨other, earlier, waits⟩
        · rw [List.mem_singleton.mp itself] at waits
          exact List.isEmpty_iff.mp (waited waits)
      · intro silent
        have here := silent instruction (List.mem_append_right _ (List.mem_singleton_self _))
        rw [view.acts, here]
        exact seen fun other member => silent other (List.mem_append_left _ member)
  | child =>
    obtain ⟨store, parents, children⟩ := now
    cases children with
    | nil => cases stepped
    | cons instruction rest =>
      simp only [step, Option.ite_none_right_eq_some, Option.some.injEq] at stepped
      obtain ⟨ready, rfl⟩ := stepped
      refine ⟨parentDone, childDone ++ [instruction], parent, ?_, ?_, ?_⟩
      · rw [child, List.append_assoc]
        rfl
      · intro passed
        cases joined passed
      · intro silent
        rw [view.acts, seen silent, view.after_append]
        rfl

/-- In every run from the start, whatever the order of the steps. -/
theorem run_follows (view : View machine Seen) {start last : Processes Store Instruction}
    {moves : List (Move Event)} {taken : List (Processes Store Instruction × Move Event)}
    (ran : run (step machine) start moves = some (taken, last)) :
    ∃ parentDone childDone, Follows view start last parentDone childDone := by
  have begun : ∃ parentDone childDone, Follows view start start parentDone childDone := by
    refine ⟨[], [], rfl, rfl, ?_, fun _ => rfl⟩
    rintro ⟨instruction, member, _⟩
    cases member
  exact run_keeps (step machine)
    (fun now => ∃ parentDone childDone, Follows view start now parentDone childDone)
    (fun _ _ _ stepped follows => step_follows view stepped follows) ran begun

/-- As long as the child runs the parent has done nothing but what its program has in front of
a wait. -/
theorem Follows.prefix_of_running {view : View machine Seen} {start now : Processes Store Instruction}
    {parentDone childDone : List Instruction} (follows : Follows view start now parentDone childDone)
    (running : now.child ≠ []) {before after : List Instruction} {wait : Instruction}
    (program : start.parent = before ++ wait :: after) (waits : machine.waits wait = true) :
    parentDone <+: before := by
  have split := follows.parent.symm.trans program
  rcases List.append_eq_append_iff.mp split with ⟨others, rfl, _⟩ | ⟨others, rfl, later⟩
  · exact List.prefix_append parentDone others
  · cases others with
    | nil => exact ⟨[], by rw [List.append_nil, List.append_nil]⟩
    | cons first others =>
      -- the parent would have passed the wait
      obtain ⟨rfl, -⟩ := List.cons.inj later
      exact absurd (follows.joined ⟨wait, List.mem_append_right _ List.mem_cons_self, waits⟩) running

/-- A parent that has passed a wait and has left the view alone finds it as the child by
itself would have left it. -/
theorem seen_of_joined (view : View machine Seen) {start last : Processes Store Instruction}
    {moves : List (Move Event)} {taken : List (Processes Store Instruction × Move Event)}
    (ran : run (step machine) start moves = some (taken, last)) {before : List Instruction}
    (reached : start.parent = before ++ last.parent)
    (waited : ∃ instruction ∈ before, machine.waits instruction = true)
    (silent : ∀ instruction ∈ before, view.Silent instruction) :
    last.child = [] ∧ view.view last.store = view.after start.child (view.view start.store) := by
  obtain ⟨parentDone, childDone, parent, child, joined, seen⟩ := run_follows view ran
  have same : parentDone = before := List.append_cancel_right (parent.symm.trans reached)
  rw [same] at joined seen
  have ended := joined waited
  rw [ended, List.append_nil] at child
  rw [child]
  exact ⟨ended, seen silent⟩

/-- The same for a parent that stands at an instruction which its program has only once. -/
theorem seen_at (view : View machine Seen) {start last : Processes Store Instruction}
    {moves : List (Move Event)} {taken : List (Processes Store Instruction × Move Event)}
    (ran : run (step machine) start moves = some (taken, last))
    {before after rest : List Instruction} {instruction : Instruction}
    (program : start.parent = before ++ instruction :: after) (first : instruction ∉ before)
    (only : instruction ∉ after) (reached : last.parent = instruction :: rest)
    (waited : ∃ other ∈ before, machine.waits other = true)
    (silent : ∀ other ∈ before, view.Silent other) :
    last.child = [] ∧ view.view last.store = view.after start.child (view.view start.store) := by
  obtain ⟨parentDone, childDone, follows⟩ := run_follows view ran
  have split := program.symm.trans follows.parent
  rw [reached] at split
  obtain ⟨-, -, same⟩ := (List.append_cons_inj_of_notMem first only).mp split
  exact seen_of_joined view ran (by rw [program, reached, same]) waited silent

theorem step_child {store : Store} {instruction : Instruction} (parent rest : List Instruction)
    (ready : machine.ready instruction store = true) :
    step machine ⟨store, parent, instruction :: rest⟩ .child =
      some ⟨machine.act instruction store, parent, rest⟩ :=
  if_pos ready

theorem step_parent {store : Store} {instruction : Instruction} (rest : List Instruction)
    (ready : machine.ready instruction store = true) :
    step machine ⟨store, instruction :: rest, []⟩ .parent =
      some ⟨machine.act instruction store, rest, []⟩ :=
  if_pos ⟨ready, fun _ => rfl⟩

/-- A child that never blocks comes to its end without a step of its parent. -/
theorem run_child (stays : Store → Prop) (store : Store) (begun : stays store)
    (parent child : List Instruction)
    (able : ∀ instruction ∈ child, ∀ store, stays store →
      machine.ready instruction store = true ∧ stays (machine.act instruction store)) :
    ∃ taken store', run (step machine) ⟨store, parent, child⟩
        (List.replicate child.length .child) = some (taken, ⟨store', parent, []⟩) ∧
      stays store' := by
  induction child generalizing store with
  | nil => exact ⟨[], store, rfl, begun⟩
  | cons instruction rest ih =>
    obtain ⟨ready, next⟩ := able instruction List.mem_cons_self store begun
    obtain ⟨taken, store', ran, stayed⟩ :=
      ih _ next (fun other member => able other (List.mem_cons_of_mem _ member))
    refine ⟨(⟨store, parent, instruction :: rest⟩, .child) :: taken, store', ?_, stayed⟩
    rw [List.length_cons, List.replicate_succ, run, step_child parent rest ready,
      Option.bind_some, ran]
    rfl

/-- A parent whose child has ended passes its waits. -/
theorem run_parent (stays : Store → Prop) (store : Store) (begun : stays store)
    (before after : List Instruction)
    (able : ∀ instruction ∈ before, ∀ store, stays store →
      machine.ready instruction store = true ∧ stays (machine.act instruction store)) :
    ∃ taken store', run (step machine) ⟨store, before ++ after, []⟩
        (List.replicate before.length .parent) = some (taken, ⟨store', after, []⟩) ∧
      stays store' := by
  induction before generalizing store with
  | nil => exact ⟨[], store, rfl, begun⟩
  | cons instruction rest ih =>
    obtain ⟨ready, next⟩ := able instruction List.mem_cons_self store begun
    obtain ⟨taken, store', ran, stayed⟩ :=
      ih _ next (fun other member => able other (List.mem_cons_of_mem _ member))
    refine ⟨(⟨store, instruction :: (rest ++ after), []⟩, .parent) :: taken, store', ?_, stayed⟩
    rw [List.length_cons, List.replicate_succ, List.cons_append, run,
      step_parent (rest ++ after) ready, Option.bind_some, ran]
    rfl

end

end MemoryDemo.Library.ForkJoin
