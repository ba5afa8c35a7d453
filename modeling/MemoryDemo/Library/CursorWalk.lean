import Mathlib.Data.List.Basic

/-! Loops that ask an environment one question after another. Each answer fixes the
cursor of the next question; the first question without an answer ends the loop. -/

namespace MemoryDemo.Library.CursorWalk

/-- An environment and the way a loop moves on. The first argument of `query` counts
the questions asked before, so that the environment may change while the loop runs. -/
structure Source (Cursor Answer : Type*) where
  query : Nat → Cursor → Option Answer
  next : Answer → Cursor

/-- Where a loop stands when it ends. -/
structure Stop (Cursor State : Type*) where
  state : State
  cursor : Cursor
  calls : Nat
  deriving DecidableEq, Repr

section
variable {Cursor Answer State : Type*} (source : Source Cursor Answer)

/-- `while (true) { answer = query(cursor); if (failed) break; body; cursor = next }`;
`none` means that the fuel did not suffice. -/
def walk (body : State → Answer → State) : Nat → Nat → Cursor → State → Option (Stop Cursor State)
  | 0, _, _, _ => none
  | fuel + 1, calls, cursor, state =>
      match source.query calls cursor with
      | none => some ⟨state, cursor, calls + 1⟩
      | some answer => walk body fuel (calls + 1) (source.next answer) (body state answer)

/-- The answers one loop receives, in order, and the cursor at which it ends. -/
inductive Serves : Nat → Cursor → List Answer → Cursor → Prop where
  | fails {calls : Nat} {cursor : Cursor} (silent : source.query calls cursor = none) :
      Serves calls cursor [] cursor
  | answers {calls : Nat} {cursor last : Cursor} {answer : Answer} {rest : List Answer}
      (given : source.query calls cursor = some answer)
      (later : Serves (calls + 1) (source.next answer) rest last) :
      Serves calls cursor (answer :: rest) last

/-- An environment serves a loop in one way only. -/
theorem serves_unique {source : Source Cursor Answer} {calls : Nat} {cursor last ended : Cursor}
    {answers others : List Answer} (served : Serves source calls cursor answers last)
    (again : Serves source calls cursor others ended) : answers = others ∧ last = ended := by
  induction served generalizing others with
  | fails silent =>
    cases again with
    | fails => exact ⟨rfl, rfl⟩
    | answers given => cases silent.symm.trans given
  | answers given later ih =>
    cases again with
    | fails silent => cases silent.symm.trans given
    | answers same rest =>
      cases given.symm.trans same
      obtain ⟨rfl, rfl⟩ := ih rest
      exact ⟨rfl, rfl⟩

/-- With enough fuel a loop folds its body over exactly the answers it is served. -/
theorem walk_of_serves (body : State → Answer → State) {calls : Nat} {cursor last : Cursor}
    {answers : List Answer} (served : Serves source calls cursor answers last)
    (fuel : Nat) (enough : answers.length < fuel) (state : State) :
    walk source body fuel calls cursor state =
      some ⟨answers.foldl body state, last, calls + answers.length + 1⟩ := by
  induction served generalizing fuel state with
  | fails silent =>
    obtain ⟨fuel, rfl⟩ : ∃ n, fuel = n + 1 := ⟨fuel - 1, by simp at enough; omega⟩
    simp only [walk, silent, List.foldl_nil, List.length_nil, Nat.add_zero]
  | answers given later ih =>
    obtain ⟨fuel, rfl⟩ : ∃ n, fuel = n + 1 := ⟨fuel - 1, by simp at enough; omega⟩
    simp only [List.length_cons, Nat.add_lt_add_iff_right] at enough
    simp only [walk, given, List.foldl_cons, List.length_cons]
    rw [ih fuel enough]
    simp only [Option.some.injEq, Stop.mk.injEq, true_and]
    omega

/-- If every answer moves the cursor up, and never beyond a limit, then a loop is served
no more answers than there are steps up to the limit. -/
theorem serves_of_rank (rank : Cursor → Nat) (limit : Nat)
    (advances : ∀ calls cursor answer, source.query calls cursor = some answer →
      rank cursor < rank (source.next answer) ∧ rank (source.next answer) ≤ limit)
    (calls : Nat) (cursor : Cursor) :
    ∃ answers last, Serves source calls cursor answers last ∧
      answers.length ≤ limit - rank cursor := by
  generalize left : limit - rank cursor = room
  induction room using Nat.strongRecOn generalizing calls cursor with
  | ind room ih =>
    cases given : source.query calls cursor with
    | none => exact ⟨[], cursor, .fails given, Nat.zero_le _⟩
    | some answer =>
      obtain ⟨up, bounded⟩ := advances calls cursor answer given
      obtain ⟨rest, last, later, few⟩ := ih (limit - rank (source.next answer)) (by omega)
        (calls + 1) (source.next answer) rfl
      refine ⟨answer :: rest, last, .answers given later, ?_⟩
      rw [List.length_cons]
      omega

/-- Where a loop has ended, it has folded its body over what it was served. -/
theorem serves_of_walk (body : State → Answer → State) {fuel calls : Nat} {cursor : Cursor}
    {state : State} {stop : Stop Cursor State}
    (ended : walk source body fuel calls cursor state = some stop) :
    ∃ answers, Serves source calls cursor answers stop.cursor ∧
      stop.state = answers.foldl body state ∧ stop.calls = calls + answers.length + 1 := by
  induction fuel generalizing calls cursor state with
  | zero => cases ended
  | succ fuel ih =>
    unfold walk at ended
    split at ended
    next silent =>
      cases ended
      exact ⟨[], .fails silent, rfl, rfl⟩
    next answer given =>
      obtain ⟨rest, later, folded, counted⟩ := ih ended
      refine ⟨answer :: rest, .answers given later, folded, ?_⟩
      rw [counted, List.length_cons]
      omega

/-- The body of a loop that also writes down its answers. -/
def noting (body : State → Answer → State) (noted : State × List Answer) (answer : Answer) :
    State × List Answer :=
  (body noted.1 answer, noted.2 ++ [answer])

theorem foldl_noting (body : State → Answer → State) (answers : List Answer) (state : State)
    (seen : List Answer) :
    answers.foldl (noting body) (state, seen) = (answers.foldl body state, seen ++ answers) := by
  induction answers generalizing state seen with
  | nil => rw [List.foldl_nil, List.foldl_nil, List.append_nil]
  | cons answer rest ih =>
    rw [List.foldl_cons, noting, ih, List.foldl_cons, List.append_assoc, List.singleton_append]

/-- The loop that only writes down its answers. -/
def visits (fuel calls : Nat) (cursor : Cursor) : Option (Stop Cursor (List Answer)) :=
  walk source (fun seen answer => seen ++ [answer]) fuel calls cursor []

theorem visits_of_serves {calls : Nat} {cursor last : Cursor} {answers : List Answer}
    (served : Serves source calls cursor answers last) (fuel : Nat)
    (enough : answers.length < fuel) :
    visits source fuel calls cursor = some ⟨answers, last, calls + answers.length + 1⟩ := by
  have copied : answers.foldl (fun seen answer => seen ++ [answer]) [] = answers := by
    rw [List.foldl_append_eq_append, ← List.flatMap_def, List.flatMap_singleton', List.nil_append]
  rw [visits, walk_of_serves source _ served fuel enough, copied]

end

end MemoryDemo.Library.CursorWalk
