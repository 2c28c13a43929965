import ContainerNetwork.Proofs.Plan

/-!
# What a run does as a whole

`Traces` relates the whole log of a run to what the run ends in, be it a value or a failure.  It
speaks of every run on every host, and what is known of the parts of a program is put together along
its steps.
-/

namespace ContainerNetwork

variable {α β : Type}

/-- Whatever the host answers, the log of a run and what it ends in are such as `spec` says. -/
structure Plan.Traces (spec : List Event → α → Prop) (plan : Plan α) : Prop where
  run : ∀ {σ : Type} (respond : (call : Call) → σ → call.Answer × σ) (state : σ),
    spec (plan.log respond state) (plan.run respond state).1

theorem Plan.traces_call (call : Call) :
    (Plan.call call).Traces fun log answer => log = [⟨call, answer⟩] :=
  ⟨fun _ _ => rfl⟩

namespace Operation

/-- Whatever the host answers, the log of a run and its result are such as `spec` says. -/
structure Traces (spec : List Event → Except Failure α → Prop) (operation : Operation α) :
    Prop where
  run : ∀ {σ : Type} (respond : (call : Call) → σ → call.Answer × σ) (state : σ),
    spec (events respond operation state) (runOn respond operation state).1

namespace Traces

variable {spec other first : List Event → Except Failure α → Prop}
variable {whole : List Event → Except Failure β → Prop}
variable {operation : Operation α} {next : α → Operation β}

theorem pure {value : α} (hspec : spec [] (.ok value)) :
    Traces spec (Pure.pure value : Operation α) :=
  ⟨fun _ _ => hspec⟩

theorem throw {failure : Failure} (hspec : spec [] (.error failure)) :
    Traces spec (throw failure : Operation α) :=
  ⟨fun _ _ => hspec⟩

theorem imp (hoperation : Traces spec operation)
    (hspec : ∀ log result, spec log result → other log result) : Traces other operation :=
  ⟨fun respond state => hspec _ _ (hoperation.run respond state)⟩

theorem host {plan : Plan (Except HostFault α)} {asked : List Event → Except HostFault α → Prop}
    (hplan : plan.Traces asked)
    (hspec : ∀ log answer, asked log answer → spec log (answer.mapError .host)) :
    Traces spec (Operation.host plan) := by
  constructor
  intro σ respond state
  rw [events_host, runOn_host]
  exact hspec _ _ (hplan.run respond state)

/-- Of two operations in sequence the second goes on where the first succeeds. -/
theorem bind (hoperation : Traces first operation)
    (hfailed : ∀ log failure, first log (.error failure) → whole log (.error failure))
    (hnext : ∀ log value, first log (.ok value) →
      Traces (fun more result => whole (log ++ more) result) (next value)) :
    Traces whole (operation >>= next) := by
  constructor
  intro σ respond state
  have hrun := hoperation.run respond state
  rw [events_bind, runOn_bind]
  generalize runOn respond operation state = run at hrun ⊢
  obtain ⟨failure | value, after⟩ := run
  · rw [List.append_nil]
    exact hfailed _ _ hrun
  · exact (hnext _ _ hrun).run respond after

/-- A call whose fault ends the operation, and what follows its answer. -/
theorem host_bind {plan : Plan (Except HostFault α)}
    {asked : List Event → Except HostFault α → Prop} (hplan : plan.Traces asked)
    (hfailed : ∀ log fault, asked log (.error fault) → whole log (.error (.host fault)))
    (hnext : ∀ log value, asked log (.ok value) →
      Traces (fun more result => whole (log ++ more) result) (next value)) :
    Traces whole (Operation.host plan >>= next) := by
  have hhost : Traces (fun log result => ∃ answer, asked log answer ∧
      result = answer.mapError .host) (Operation.host plan) :=
    host hplan fun log answer hanswer => ⟨answer, hanswer, rfl⟩
  apply hhost.bind
  · intro log failure hfailure
    obtain ⟨answer, hanswer, hresult⟩ := hfailure
    cases answer with
    | ok value => cases hresult
    | error fault =>
        cases hresult
        exact hfailed log fault hanswer
  · intro log value hvalue
    obtain ⟨answer, hanswer, hresult⟩ := hvalue
    cases answer with
    | error fault => cases hresult
    | ok found =>
        cases hresult
        exact hnext log value hanswer

theorem sleep_bind {milliseconds : Nat} {next : Unit → Operation β}
    (hnext : Traces (fun more result => whole (⟨.sleep milliseconds, ()⟩ :: more) result)
      (next ())) :
    Traces whole (Operation.sleep milliseconds >>= next) := by
  constructor
  intro σ respond state
  rw [events_bind, runOn_bind]
  exact hnext.run respond (respond (.sleep milliseconds) state).2

/-- What follows the result of an operation follows its failure as well. -/
theorem result_bind {next : Except Failure α → Operation β} (hoperation : Traces first operation)
    (hnext : ∀ log result, first log result →
      Traces (fun more last => whole (log ++ more) last) (next result)) :
    Traces whole (Operation.result operation >>= next) := by
  constructor
  intro σ respond state
  rw [events_bind, runOn_bind, runOn_result, events_result]
  exact (hnext _ _ (hoperation.run respond state)).run respond _

/-- An operation is undone where it fails and its failure stands, however undoing it ends. -/
theorem orUndo {undo : Operation β} {undoing : List Event → Except Failure β → Prop}
    (hoperation : Traces first operation) (hundo : Traces undoing undo)
    (hdone : ∀ log value, first log (.ok value) → spec log (.ok value))
    (hundone : ∀ log failure more result, first log (.error failure) → undoing more result →
      spec (log ++ more) (.error failure)) :
    Traces spec (Operation.orUndo operation undo) := by
  constructor
  intro σ respond state
  have hrun := hoperation.run respond state
  rw [events_orUndo, runOn_orUndo]
  generalize runOn respond operation state = run at hrun ⊢
  obtain ⟨failure | value, after⟩ := run
  · exact hundone _ _ _ _ hrun (hundo.run respond after)
  · rw [List.append_nil]
    exact hdone _ _ hrun

end Traces

end Operation

end ContainerNetwork
