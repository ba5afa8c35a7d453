import MemoryDemo.Library.CallTree

/-! Programs at two grains: a program that carries out the calls of another one, a program without
its idle calls, and what a program has become behind some of its exchanges. -/

namespace MemoryDemo.Library.Grains
open CallTree

variable {Call Fine : Type} {Answer : Call → Type} {FineAnswer : Fine → Type} {α β : Type}

section Carrying
variable (perform : (request : Call) → Program Fine FineAnswer (Answer request))

/-- Every call is carried out by a program of a finer grain. -/
def carryOut : Program Call Answer α → Program Fine FineAnswer α
  | .done value => .done value
  | .halt => .halt
  | .call request next => perform request >>= fun answer => carryOut (next answer)

theorem carryOut_bind (program : Program Call Answer α) (next : α → Program Call Answer β) :
    carryOut perform (program >>= next) =
      carryOut perform program >>= fun value => carryOut perform (next value) := by
  induction program with
  | done value => rfl
  | halt => rfl
  | call request rest ih =>
    change perform request >>= (fun answer => carryOut perform (rest answer >>= next)) =
      perform request >>= (fun answer => carryOut perform (rest answer)) >>= _
    rw [Program.bind_assoc]
    simp only [ih]

end Carrying

section Leaving
variable (idle : (request : Call) → Option (Answer request))

/-- A program without its idle calls, which have one answer each. -/
def leaveOut : Program Call Answer α → Program Call Answer α
  | .done value => .done value
  | .halt => .halt
  | .call request next =>
    match idle request with
    | some answer => leaveOut (next answer)
    | none => .call request fun answer => leaveOut (next answer)

theorem leaveOut_bind (program : Program Call Answer α) (next : α → Program Call Answer β) :
    leaveOut idle (program >>= next) =
      leaveOut idle program >>= fun value => leaveOut idle (next value) := by
  induction program with
  | done value => rfl
  | halt => rfl
  | call request rest ih =>
    change leaveOut idle (.call request fun answer => rest answer >>= next) = _
    cases known : idle request with
    | some answer => simp only [leaveOut, known, ih]
    | none =>
      simp only [leaveOut, known, ih]
      rfl

end Leaving

/-- What a program has become once these are its exchanges. -/
inductive Reaches :
    Program Call Answer α → List (Exchange Call Answer) → Program Call Answer α → Prop where
  | here (program : Program Call Answer α) : Reaches program [] program
  | behind {request : Call} {next : Answer request → Program Call Answer α}
      {answer : Answer request} {log : List (Exchange Call Answer)}
      {last : Program Call Answer α} (rest : Reaches (next answer) log last) :
      Reaches (.call request next) (⟨request, answer⟩ :: log) last

/-- A run that begins with these exchanges goes on as the run of what is left. -/
theorem Reaches.run {program last : Program Call Answer α} {log : List (Exchange Call Answer)}
    (reaches : Reaches program log last) (environment : Environment Call Answer)
    (past : List (Exchange Call Answer))
    (begins : log <+: (run environment past program).log) :
    run environment past program =
      ⟨log ++ (run environment (past ++ log) last).log,
        (run environment (past ++ log) last).result⟩ := by
  induction reaches generalizing past with
  | here program =>
    rw [List.append_nil]
    rfl
  | @behind request next answer log last rest ih =>
    have same := (List.cons_prefix_cons.mp begins).1
    have answered : environment past request = answer := eq_of_heq (Sigma.mk.inj same).2.symm
    have first := run_ask environment past request next answered
    change CallTree.run environment past (.call request next) = _ at first
    rw [first] at begins ⊢
    have later := ih _ (List.cons_prefix_cons.mp begins).2
    rw [later, List.append_assoc]
    rfl

end MemoryDemo.Library.Grains
