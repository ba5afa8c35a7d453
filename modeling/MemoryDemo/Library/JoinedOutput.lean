import MemoryDemo.Library.ForkJoin

/-! What a parent and its child put out in the course of a run. Where the parent has nothing to
say before it waits, the order of the steps does not show in the output. -/

namespace MemoryDemo.Library.JoinedOutput
open ForkJoin Transition

inductive Process where
  | parent
  | child
  deriving DecidableEq, Repr

variable {Store Instruction Event Seen Output : Type*}

/-- A view of the store, and what an instruction puts out that finds it so. -/
structure Reader (machine : Machine Store Instruction Event) (Seen Output : Type*)
    extends View machine Seen where
  output : Instruction → Seen → Option Output

variable {machine : Machine Store Instruction Event} (reader : Reader machine Seen Output)

/-- What a process puts out that runs by itself. -/
def Reader.outputs : List Instruction → Seen → List Output
  | [], _ => []
  | instruction :: rest, seen =>
    (reader.output instruction seen).toList ++ outputs rest (reader.effect instruction seen)

/-- What a move puts out, with the process that makes it. -/
def Reader.put (now : Processes Store Instruction) : Move Event → List (Process × Output)
  | .parent =>
    match now.parent with
    | [] => []
    | instruction :: _ =>
      (reader.output instruction (reader.view now.store)).toList.map (Process.parent, ·)
  | .child =>
    match now.child with
    | [] => []
    | instruction :: _ =>
      (reader.output instruction (reader.view now.store)).toList.map (Process.child, ·)
  | .outside _ => []

/-- The output of a run. -/
def Reader.emitted (taken : List (Processes Store Instruction × Move Event)) :
    List (Process × Output) :=
  taken.flatMap fun pair => reader.put pair.1 pair.2

/-- The output to come if the child runs to its end before its parent goes on. -/
def Reader.left (now : Processes Store Instruction) : List (Process × Output) :=
  (reader.outputs now.child (reader.view now.store)).map (Process.child, ·) ++
    (reader.outputs now.parent (reader.after now.child (reader.view now.store))).map
      (Process.parent, ·)

/-- An instruction that shows neither in the view nor in the output. -/
structure Reader.Quiet (instruction : Instruction) : Prop where
  silent : reader.Silent instruction
  mute : ∀ seen, reader.output instruction seen = none

/-- The child has ended, or its parent has to wait before it gets to say anything. -/
def Reader.Ordered (now : Processes Store Instruction) : Prop :=
  now.child = [] ∨ ∃ before wait after, now.parent = before ++ wait :: after ∧
    machine.waits wait = true ∧ ∀ instruction ∈ before, reader.Quiet instruction

theorem Reader.outputs_quiet {instruction : Instruction} (quiet : reader.Quiet instruction)
    (rest : List Instruction) (seen : Seen) :
    reader.outputs (instruction :: rest) seen = reader.outputs rest seen := by
  rw [outputs, quiet.mute, quiet.silent]
  rfl

theorem Reader.left_of_ended (store : Store) (parent : List Instruction) :
    reader.left ⟨store, parent, []⟩ =
      (reader.outputs parent (reader.view store)).map (Process.parent, ·) :=
  rfl

/-- Whoever moves puts out what was the next to come. -/
theorem Reader.step_left {now next : Processes Store Instruction} {move : Move Event}
    (stepped : step machine now move = some next) (ordered : reader.Ordered now) :
    reader.Ordered next ∧ reader.put now move ++ reader.left next = reader.left now := by
  obtain ⟨store, parents, children⟩ := now
  cases move with
  | outside event =>
    cases stepped
    refine ⟨ordered, ?_⟩
    simp only [left, put, reader.toView.outside, List.nil_append]
  | child =>
    cases children with
    | nil => cases stepped
    | cons instruction rest =>
      simp only [step, Option.ite_none_right_eq_some, Option.some.injEq] at stepped
      obtain ⟨ready, rfl⟩ := stepped
      constructor
      · rcases ordered with ended | waiting
        · cases ended
        · exact Or.inr waiting
      · simp only [left, put, outputs, reader.toView.acts, List.map_append, List.append_assoc]
        rfl
  | parent =>
    cases parents with
    | nil => cases stepped
    | cons instruction rest =>
      simp only [step, Option.ite_none_right_eq_some, Option.some.injEq] at stepped
      obtain ⟨⟨ready, waited⟩, rfl⟩ := stepped
      cases children with
      | nil =>
        refine ⟨Or.inl rfl, ?_⟩
        simp only [left_of_ended, put, outputs, reader.toView.acts, List.map_append]
      | cons other others =>
        rcases ordered with ended | ⟨before, wait, after, program, waits, quiet⟩
        · cases ended
        cases before with
        | nil =>
          -- the child still runs, so the parent cannot pass its wait
          obtain ⟨rfl, -⟩ := List.cons.inj program
          cases waited waits
        | cons first before =>
          obtain ⟨rfl, rfl⟩ := List.cons.inj program
          have here : reader.Quiet instruction := quiet _ List.mem_cons_self
          have silent : ∀ seen, reader.effect instruction seen = seen := here.silent
          constructor
          · exact Or.inr ⟨before, wait, after, rfl, waits,
              fun instruction member => quiet instruction (List.mem_cons_of_mem _ member)⟩
          · simp only [left, put, reader.toView.acts, silent, here.mute,
              reader.outputs_quiet here]
            rfl

/-- What a run has put out and what is to come are the output of the child by itself, and then
that of its parent. -/
theorem Reader.run_left {start last : Processes Store Instruction} {moves : List (Move Event)}
    {taken : List (Processes Store Instruction × Move Event)}
    (ran : run (step machine) start moves = some (taken, last)) (ordered : reader.Ordered start) :
    reader.emitted taken ++ reader.left last = reader.left start := by
  induction moves generalizing start taken with
  | nil =>
    cases ran
    rfl
  | cons move rest ih =>
    obtain ⟨next, later, stepped, ran', rfl⟩ := run_cons _ ran
    obtain ⟨still, same⟩ := reader.step_left stepped ordered
    calc reader.emitted ((start, move) :: later) ++ reader.left last
        = reader.put start move ++ (reader.emitted later ++ reader.left last) := by
          rw [emitted, List.flatMap_cons, List.append_assoc]
          rfl
      _ = reader.put start move ++ reader.left next := by rw [ih ran' still]
      _ = reader.left start := same

end MemoryDemo.Library.JoinedOutput
