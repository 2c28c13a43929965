/-!
# Programs

A program makes one request at a time and goes on with its answer.  What a program does is thereby
the same whatever answers it.
-/

namespace ContainerNetwork

inductive Program {Request : Type} (Answer : Request → Type) (α : Type) where
  | done (result : α)
  | ask (request : Request) (next : Answer request → Program Answer α)

namespace Program

variable {Request : Type} {Answer : Request → Type} {α β : Type}

def bind (program : Program Answer α) (next : α → Program Answer β) : Program Answer β :=
  match program with
  | done result => next result
  | ask request answered => ask request fun answer => (answered answer).bind next

instance : Monad (Program Answer) where
  pure := done
  bind := bind

theorem bind_done (program : Program Answer α) : program.bind done = program := by
  induction program with
  | done _ => rfl
  | ask request _ ih => exact congrArg (ask request) (funext ih)

theorem bind_assoc {γ : Type} (program : Program Answer α) (f : α → Program Answer β)
    (g : β → Program Answer γ) :
    (program.bind f).bind g = program.bind fun result => (f result).bind g := by
  induction program with
  | done _ => rfl
  | ask request _ ih => exact congrArg (ask request) (funext ih)

instance : LawfulMonad (Program Answer) :=
  LawfulMonad.mk' (Program Answer) bind_done (fun _ _ => rfl) fun program f g =>
    bind_assoc program f g

/-- Runs a program on a state from which it is answered and which the answers may change. -/
def run {σ : Type} (respond : (request : Request) → σ → Answer request × σ) :
    Program Answer α → σ → α × σ
  | done result, state => (result, state)
  | ask request next, state =>
      let (answer, state) := respond request state
      (next answer).run respond state

section Run

variable {σ : Type} {respond : (request : Request) → σ → Answer request × σ}

theorem run_bind (program : Program Answer α) (next : α → Program Answer β) (state : σ) :
    (program >>= next).run respond state =
      (next (program.run respond state).1).run respond (program.run respond state).2 := by
  change (program.bind next).run respond state = _
  induction program generalizing state with
  | done result => rfl
  | ask request answered ih => exact ih _ _

theorem run_map (f : α → β) (program : Program Answer α) (state : σ) :
    (f <$> program).run respond state =
      (f (program.run respond state).1, (program.run respond state).2) := by
  rw [← bind_pure_comp, run_bind]
  rfl

end Run

end Program

end ContainerNetwork
