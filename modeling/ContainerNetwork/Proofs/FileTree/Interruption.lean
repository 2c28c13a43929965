import ContainerNetwork.Proofs.FileTree.Actions

/-!
# Interrupted actions

An action may be interrupted before, amid and after each of its requests.  A change is made as a
whole or not at all, except that a file that is written may be left with any beginning of its new
content.  A request may also fail for a reason that is not in the tree; the action then goes on as
after any failure, until it ends or is interrupted.
-/

namespace ContainerNetwork

namespace FileRequest

/-- What a request that is not finished may leave of a tree. -/
inductive Leaves : FileRequest → FileTree → FileTree → Prop
  | unmade (request : FileRequest) (tree : FileTree) : Leaves request tree tree
  | torn {place : FilePlace} {content : ByteArray} {tree left : FileTree} (size : Nat)
      (hwrite : tree.write place (content.extract 0 size) = .ok left) :
      Leaves (.change (.write place content)) tree left

/-- The answer that a request has failed. -/
def refusal : (request : FileRequest) → FileError → request.Answer
  | read _, failure => .error failure
  | change _, failure => .error failure

end FileRequest

/-- The trees that a program may be interrupted on, the one that it ends on among them. -/
inductive Program.Interrupted {α : Type} :
    Program FileRequest.Answer α → FileTree → FileTree → Prop
  | ended (result : α) (tree : FileTree) : Interrupted (.done result) tree tree
  | cut {request : FileRequest} {next : request.Answer → Program FileRequest.Answer α}
      {tree left : FileTree} (hleft : request.Leaves tree left) :
      Interrupted (.ask request next) tree left
  | failed {request : FileRequest} {next : request.Answer → Program FileRequest.Answer α}
      {tree left after : FileTree} (failure : FileError) (hleft : request.Leaves tree left)
      (hlater : Interrupted (next (request.refusal failure)) left after) :
      Interrupted (.ask request next) tree after
  | answered {request : FileRequest} {next : request.Answer → Program FileRequest.Answer α}
      {tree after : FileTree}
      (hlater : Interrupted (next (request.respond tree).1) (request.respond tree).2 after) :
      Interrupted (.ask request next) tree after

theorem Program.interrupted_run {α : Type} (program : Program FileRequest.Answer α)
    (tree : FileTree) : program.Interrupted tree (program.run FileRequest.respond tree).2 := by
  induction program generalizing tree with
  | done result => exact .ended result tree
  | ask request next ih => exact .answered (ih _ _)

/-- Of some changes, each made after the one before it, not all may be finished. -/
inductive FileChange.Begun : List FileChange → FileTree → FileTree → Prop
  | finished (tree : FileTree) : Begun [] tree tree
  | unfinished {operation : FileChange} {rest : List FileChange} {tree left : FileTree}
      (hleft : (FileRequest.change operation).Leaves tree left) :
      Begun (operation :: rest) tree left
  | made {operation : FileChange} {rest : List FileChange} {tree made left : FileTree}
      (happly : operation.applyTo tree = .ok made) (hrest : Begun rest made left) :
      Begun (operation :: rest) tree left

namespace FileAction

variable {ε α : Type} {before after : FileTree}

/-- The trees that an action may be interrupted on. -/
def Interrupted (action : FileAction ε α) (before after : FileTree) : Prop :=
  Program.Interrupted (ExceptT.run action) before after

theorem interrupted_runOn (action : FileAction ε α) (tree : FileTree) :
    action.Interrupted tree (action.runOn tree).2 :=
  Program.interrupted_run (ExceptT.run action) tree

/-- What is left of one change and what comes after it. -/
theorem interrupted_ask_change {operation : FileChange}
    {next : Except FileError Unit → Program FileRequest.Answer α}
    (hinterrupted : Program.Interrupted (.ask (.change operation) next) before after) :
    (∃ left, (FileRequest.change operation).Leaves before left ∧
      (after = left ∨ ∃ failure, (next (.error failure)).Interrupted left after)) ∨
    ∃ made, operation.applyTo before = .ok made ∧ (next (.ok ())).Interrupted made after := by
  cases hinterrupted with
  | cut hleft => exact .inl ⟨after, hleft, .inl rfl⟩
  | failed failure hleft hlater => exact .inl ⟨_, hleft, .inr ⟨failure, hlater⟩⟩
  | answered hlater =>
      rw [FileRequest.respond] at hlater
      cases happly : operation.applyTo before with
      | error failure =>
          rw [happly] at hlater
          exact .inl ⟨before, .unmade _ _, .inr ⟨failure, hlater⟩⟩
      | ok made =>
          rw [happly] at hlater
          exact .inr ⟨made, rfl, hlater⟩

/-- What may be left after a change that is made, may be left of both. -/
theorem interrupted_ask_of_ok {operation : FileChange}
    {next : Except FileError Unit → Program FileRequest.Answer α} {made : FileTree}
    (happly : operation.applyTo before = .ok made)
    (hlater : (next (.ok ())).Interrupted made after) :
    Program.Interrupted (.ask (.change operation) next) before after := by
  apply Program.Interrupted.answered
  rw [FileRequest.respond, happly]
  exact hlater

/-- A series of changes is interrupted amid the series or in what follows its failure. -/
theorem interrupted_series {failure : ε} {handle : ε → FileAction ε Unit}
    (operations : List FileChange)
    (hinterrupted : Interrupted
      (tryCatch ((operations.forM change).failingWith failure) handle) before after) :
    ∃ left, FileChange.Begun operations before left ∧
      (after = left ∨ (handle failure).Interrupted left after) := by
  induction operations generalizing before with
  | nil =>
      change Program.Interrupted (.done (Except.ok ())) before after at hinterrupted
      cases hinterrupted
      exact ⟨after, .finished after, .inl rfl⟩
  | cons operation rest ih =>
      rcases interrupted_ask_change hinterrupted with ⟨left, hleft, hafter⟩ | ⟨made, happly, hrest⟩
      · exact ⟨left, .unfinished hleft, hafter.imp_right fun ⟨_, hhandle⟩ => hhandle⟩
      · obtain ⟨left, hbegun, hafter⟩ := ih hrest
        exact ⟨left, .made happly hbegun, hafter⟩

end FileAction

end ContainerNetwork
