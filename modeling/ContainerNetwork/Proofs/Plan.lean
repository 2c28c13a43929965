import ContainerNetwork.Plan
import Mathlib.Data.List.Forall2

/-!
# Running plans

What a plan does to a host is told by its result, the state it leaves the host in and the log of
its calls with their answers.  A plan that makes only calls of a kind keeps what those calls keep.
-/

namespace ContainerNetwork

/-- A call with the answer that the host gave. -/
structure Event where
  call : Call
  answer : call.Answer

/-- The events of a log that are calls of a kind. -/
def Event.ofKind (kind : CallKind) (log : List Event) : List Event :=
  log.filter fun event => event.call.kind = kind

namespace Event

variable {kind : CallKind} {log : List Event}

@[simp]
theorem ofKind_append (kind : CallKind) (earlier later : List Event) :
    ofKind kind (earlier ++ later) = ofKind kind earlier ++ ofKind kind later :=
  List.filter_append _ _

theorem ofKind_eq_nil (hlog : ∀ event ∈ log, event.call.kind ≠ kind) : ofKind kind log = [] :=
  List.filter_eq_nil_iff.mpr fun event hevent hkind =>
    hlog event hevent (of_decide_eq_true hkind)

end Event

namespace Plan

variable {σ α β : Type} {respond : (call : Call) → σ → call.Answer × σ}

/-- The calls of a run, each with its answer, in their order. -/
def log (respond : (call : Call) → σ → call.Answer × σ) : Plan α → σ → List Event
  | .done _, _ => []
  | .ask call next, state =>
      let (answer, state) := respond call state
      ⟨call, answer⟩ :: Plan.log respond (next answer) state

theorem log_bind (plan : Plan α) (next : α → Plan β) (state : σ) :
    (plan >>= next).log respond state =
      plan.log respond state ++
        (next (plan.run respond state).1).log respond (plan.run respond state).2 := by
  change Plan.log respond (plan.bind next) state = _
  induction plan generalizing state with
  | done result => rfl
  | ask call answered ih => exact congrArg (List.cons _) (ih _ _)

theorem log_call (call : Call) (state : σ) :
    (Plan.call call).log respond state = [⟨call, (respond call state).1⟩] := rfl

/-- Whatever the answers, the plan makes only calls that are allowed. -/
def Makes (allowed : Call → Prop) : Plan α → Prop
  | .done _ => True
  | .ask call next => allowed call ∧ ∀ answer, Plan.Makes allowed (next answer)

variable {allowed : Call → Prop} {plan : Plan α}

theorem makes_call {call : Call} (hallowed : allowed call) : (Plan.call call).Makes allowed :=
  ⟨hallowed, fun _ => trivial⟩

theorem Makes.bind {next : α → Plan β} (hplan : plan.Makes allowed)
    (hnext : ∀ result, (next result).Makes allowed) : (plan >>= next).Makes allowed := by
  change Plan.Makes allowed (plan.bind next)
  induction plan with
  | done result => exact hnext result
  | ask call answered ih => exact ⟨hplan.1, fun answer => ih answer (hplan.2 answer)⟩

theorem Makes.mono {other : Call → Prop} (hplan : plan.Makes allowed)
    (hcalls : ∀ call, allowed call → other call) : plan.Makes other := by
  induction plan with
  | done result => trivial
  | ask call next ih => exact ⟨hcalls call hplan.1, fun answer => ih answer (hplan.2 answer)⟩

theorem makes_any (plan : Plan α) : plan.Makes fun _ => True := by
  induction plan with
  | done result => trivial
  | ask call next ih => exact ⟨trivial, ih⟩

/-- What every allowed call keeps, a plan of allowed calls keeps. -/
theorem Makes.keeps (invariant : σ → Prop) (hplan : plan.Makes allowed)
    (hcalls : ∀ call state, allowed call → invariant state → invariant (respond call state).2)
    {state : σ} (hstart : invariant state) : invariant (plan.run respond state).2 := by
  induction plan generalizing state with
  | done result => exact hstart
  | ask call next ih => exact ih _ (hplan.2 _) (hcalls call state hplan.1 hstart)

/-- What holds of every allowed call as a sound state answers it, holds throughout a run. -/
theorem Makes.forall_mem_log {sound : σ → Prop} {holds : Event → Prop} (hplan : plan.Makes allowed)
    (hsound : ∀ call state, sound state → sound (respond call state).2)
    (hholds : ∀ call state, allowed call → sound state → holds ⟨call, (respond call state).1⟩)
    {state : σ} (hstart : sound state) : ∀ event ∈ plan.log respond state, holds event := by
  induction plan generalizing state with
  | done result => exact fun _ hevent => absurd hevent List.not_mem_nil
  | ask call next ih =>
      intro event hevent
      rcases List.mem_cons.mp hevent with rfl | hlater
      · exact hholds call state hplan.1 hstart
      · exact ih _ (hplan.2 _) (hsound call state hstart) event hlater

/-- Every call of a run is one that the plan may make. -/
theorem Makes.allowed_of_mem_log (hplan : plan.Makes allowed) {state : σ} {event : Event}
    (hevent : event ∈ plan.log respond state) : allowed event.call := by
  induction plan generalizing state with
  | done result => cases hevent
  | ask call next ih =>
      rcases List.mem_cons.mp hevent with rfl | hlater
      · exact hplan.1
      · exact ih _ (hplan.2 _) hlater

end Plan

namespace Operation

variable {σ α β : Type} {respond : (call : Call) → σ → call.Answer × σ} {state : σ}

/-- Runs an operation: its result and the state it leaves. -/
def runOn (respond : (call : Call) → σ → call.Answer × σ) (operation : Operation α) (state : σ) :
    Except Failure α × σ :=
  Program.run respond (ExceptT.run operation) state

/-- The calls that running an operation makes. -/
def events (respond : (call : Call) → σ → call.Answer × σ) (operation : Operation α) (state : σ) :
    List Event :=
  Plan.log respond (ExceptT.run operation) state

@[simp]
theorem runOn_pure (value : α) : runOn respond (pure value : Operation α) state =
    (.ok value, state) := rfl

@[simp]
theorem runOn_throw (failure : Failure) : runOn respond (throw failure : Operation α) state =
    (.error failure, state) := rfl

@[simp]
theorem runOn_ofExcept (result : Except Failure α) : runOn respond (ofExcept result) state =
    (result, state) := rfl

theorem runOn_host (plan : Plan (Except HostFault α)) : runOn respond (host plan) state =
    ((plan.run respond state).1.mapError Failure.host, (plan.run respond state).2) := by
  simp only [runOn, host, ExceptT.run_mk, ← bind_pure_comp, Program.run_bind]
  rfl

theorem runOn_pool (plan : Plan (Except Failure α)) :
    runOn respond (pool plan) state = plan.run respond state := rfl

theorem runOn_bind (operation : Operation α) (next : α → Operation β) :
    runOn respond (operation >>= next) state =
      match runOn respond operation state with
      | (.ok value, after) => runOn respond (next value) after
      | (.error failure, after) => (.error failure, after) := by
  simp only [runOn, ExceptT.run_bind, Program.run_bind]
  rcases Program.run respond (ExceptT.run operation) state with ⟨failure | value, after⟩
  · rfl
  · rfl

theorem events_bind (operation : Operation α) (next : α → Operation β) :
    events respond (operation >>= next) state =
      events respond operation state ++
        match runOn respond operation state with
        | (.ok value, after) => events respond (next value) after
        | (.error _, _) => [] := by
  simp only [runOn, events, ExceptT.run_bind, Plan.log_bind]
  rcases Program.run respond (ExceptT.run operation) state with ⟨failure | value, after⟩
  · rfl
  · rfl

theorem runOn_result (operation : Operation α) : runOn respond (result operation) state =
    (.ok (runOn respond operation state).1, (runOn respond operation state).2) := by
  simp only [runOn, result, ExceptT.run_lift, ← bind_pure_comp, Program.run_bind]
  rfl

theorem events_result (operation : Operation α) :
    events respond (result operation) state = events respond operation state := by
  simp only [events, result, ExceptT.run_lift, ← bind_pure_comp, Plan.log_bind]
  exact List.append_nil _

theorem events_host (plan : Plan (Except HostFault α)) :
    events respond (host plan) state = plan.log respond state := by
  simp only [events, host, ExceptT.run_mk, ← bind_pure_comp, Plan.log_bind]
  exact List.append_nil _

theorem events_pool (plan : Plan (Except Failure α)) :
    events respond (pool plan) state = plan.log respond state := rfl

theorem runOn_discard (operation : Operation α) : runOn respond (discard operation) state =
    ((runOn respond operation state).1.map fun _ => (), (runOn respond operation state).2) := by
  rw [Functor.discard, LawfulFunctor.map_const, Function.comp, ← bind_pure_comp,
    runOn_bind]
  rcases runOn respond operation state with ⟨failure | value, after⟩
  · rfl
  · rfl

theorem events_discard (operation : Operation α) :
    events respond (discard operation) state = events respond operation state := by
  rw [Functor.discard, LawfulFunctor.map_const, Function.comp, ← bind_pure_comp,
    events_bind]
  rcases runOn respond operation state with ⟨failure | value, after⟩
  · exact List.append_nil _
  · exact List.append_nil _

/-- What an operation that succeeds went through. -/
theorem runOn_bind_eq_ok {operation : Operation α} {next : α → Operation β} {value : β}
    (hrun : (runOn respond (operation >>= next) state).1 = .ok value) :
    ∃ middle, (runOn respond operation state).1 = .ok middle ∧
      runOn respond (operation >>= next) state =
        runOn respond (next middle) (runOn respond operation state).2 := by
  rw [runOn_bind] at hrun ⊢
  rcases hoperation : runOn respond operation state with ⟨failure | middle, after⟩
  · rw [hoperation] at hrun
    cases hrun
  · exact ⟨middle, rfl, rfl⟩

theorem events_bind_of_ok {operation : Operation α} {next : α → Operation β} {middle : α}
    (hrun : (runOn respond operation state).1 = .ok middle) :
    events respond (operation >>= next) state =
      events respond operation state ++
        events respond (next middle) (runOn respond operation state).2 := by
  rw [events_bind]
  generalize runOn respond operation state = run at hrun ⊢
  obtain ⟨result, after⟩ := run
  subst hrun
  rfl

/-- A list of operations succeeds only where each of them does, and gives their values.  What every
one of them keeps of the state holds whenever one is begun. -/
theorem runOn_mapM_eq_ok_of_keeps {sound : σ → Prop} {items : List α} {next : α → Operation β}
    {values : List β}
    (hkeeps : ∀ item value before, sound before → (runOn respond (next item) before).1 = .ok value →
      sound (runOn respond (next item) before).2)
    (hsound : sound state) (hrun : (runOn respond (items.mapM next) state).1 = .ok values) :
    List.Forall₂ (fun item value => ∃ before, sound before ∧
      (runOn respond (next item) before).1 = .ok value) items values := by
  induction items generalizing state values with
  | nil =>
      cases hrun
      exact .nil
  | cons item rest ih =>
      rw [List.mapM_cons] at hrun
      obtain ⟨value, hvalue, hafter⟩ := runOn_bind_eq_ok hrun
      rw [hafter] at hrun
      obtain ⟨others, hothers, hlast⟩ := runOn_bind_eq_ok hrun
      rw [hlast] at hrun
      cases hrun
      exact .cons ⟨state, hsound, hvalue⟩ (ih (hkeeps item value state hsound hvalue) hothers)

theorem runOn_mapM_eq_ok {items : List α} {next : α → Operation β} {values : List β}
    (hrun : (runOn respond (items.mapM next) state).1 = .ok values) :
    List.Forall₂ (fun item value => ∃ before, (runOn respond (next item) before).1 = .ok value)
      items values := by
  have hvalues : List.Forall₂ (fun item value => ∃ before, True ∧
      (runOn respond (next item) before).1 = .ok value) items values :=
    runOn_mapM_eq_ok_of_keeps (fun _ _ _ _ _ => trivial) trivial hrun
  simpa only [true_and] using hvalues

/-! ## Undoing -/

/-- An operation whose failure is undone, as far as that succeeds, and then thrown again. -/
def orUndo (operation : Operation α) (undo : Operation β) : Operation α := do
  match ← result operation with
  | .ok value => return value
  | .error failure =>
      discard (result undo)
      throw failure

theorem runOn_orUndo (operation : Operation α) (undo : Operation β) :
    runOn respond (orUndo operation undo) state =
      match runOn respond operation state with
      | (.ok value, after) => (.ok value, after)
      | (.error failure, after) => (.error failure, (runOn respond undo after).2) := by
  rw [orUndo, runOn_bind, runOn_result]
  rcases runOn respond operation state with ⟨failure | value, after⟩
  · simp only [runOn_bind, runOn_discard, runOn_result]
    rfl
  · rfl

theorem events_orUndo (operation : Operation α) (undo : Operation β) :
    events respond (orUndo operation undo) state =
      events respond operation state ++
        match runOn respond operation state with
        | (.ok _, _) => []
        | (.error _, after) => events respond undo after := by
  rw [orUndo, events_bind, runOn_result, events_result]
  rcases runOn respond operation state with ⟨failure | value, after⟩
  · simp only [events_bind, events_discard, events_result, runOn_discard, runOn_result]
    exact congrArg _ (List.append_nil _)
  · rfl

theorem runOn_orUndo_of_ok {operation : Operation α} {undo : Operation β} {value : α}
    (hrun : (runOn respond (orUndo operation undo) state).1 = .ok value) :
    runOn respond (orUndo operation undo) state = runOn respond operation state := by
  rw [runOn_orUndo] at hrun ⊢
  generalize runOn respond operation state = run at hrun ⊢
  obtain ⟨failure | found, after⟩ := run
  · cases hrun
  · rfl

/-- Where an operation succeeds, there is nothing to undo. -/
theorem orUndo_of_ok {operation : Operation α} {undo : Operation β} {value : α}
    (hrun : (runOn respond (orUndo operation undo) state).1 = .ok value) :
    (runOn respond operation state).1 = .ok value ∧
      events respond (orUndo operation undo) state = events respond operation state := by
  rw [runOn_orUndo] at hrun
  rw [events_orUndo]
  generalize runOn respond operation state = run at hrun ⊢
  obtain ⟨failure | found, after⟩ := run
  · cases hrun
  · exact ⟨hrun, List.append_nil _⟩

/-! ## The calls of an operation -/

/-- Whatever the answers, the operation makes only calls that are allowed. -/
def Makes (allowed : Call → Prop) (operation : Operation α) : Prop :=
  Plan.Makes allowed (ExceptT.run operation)

namespace Makes

variable {allowed : Call → Prop} {operation : Operation α} {next : α → Operation β}

theorem any (operation : Operation α) : Makes (fun _ => True) operation :=
  Plan.makes_any (ExceptT.run operation)

theorem pure (value : α) : Makes allowed (Pure.pure value : Operation α) := trivial

theorem throw (failure : Failure) : Makes allowed (throw failure : Operation α) := trivial

theorem ofExcept (result : Except Failure α) : Makes allowed (ofExcept result) := trivial

theorem bind (hoperation : Makes allowed operation) (hnext : ∀ value, Makes allowed (next value)) :
    Makes allowed (operation >>= next) := by
  rw [Makes, ExceptT.run_bind]
  apply Plan.Makes.bind hoperation
  intro result
  cases result with
  | error failure => trivial
  | ok value => exact hnext value

theorem ofExcept_bind {result : Except Failure α}
    (hnext : ∀ value, result = .ok value → Makes allowed (next value)) :
    Makes allowed (Operation.ofExcept result >>= next) := by
  cases result with
  | error failure => trivial
  | ok value => exact hnext value rfl

theorem discard (hoperation : Makes allowed operation) :
    Makes allowed (discard operation) := by
  rw [Functor.discard, LawfulFunctor.map_const, Function.comp, ← bind_pure_comp]
  exact hoperation.bind fun _ => pure _

theorem result (hoperation : Makes allowed operation) :
    Makes allowed (Operation.result operation) := by
  rw [Makes, Operation.result, ExceptT.run_lift, ← bind_pure_comp]
  exact Plan.Makes.bind hoperation fun _ => trivial

theorem host {plan : Plan (Except HostFault α)} (hplan : plan.Makes allowed) :
    Makes allowed (host plan) := by
  rw [Makes, Operation.host, ExceptT.run_mk, ← bind_pure_comp]
  exact Plan.Makes.bind hplan fun _ => trivial

theorem pool {plan : Plan (Except Failure α)} (hplan : plan.Makes allowed) :
    Makes allowed (pool plan) := hplan

theorem sleep {milliseconds : Nat} (hallowed : allowed (.sleep milliseconds)) :
    Makes allowed (sleep milliseconds) := ⟨hallowed, fun _ => trivial⟩

theorem orUndo {undo : Operation β} (hoperation : Makes allowed operation)
    (hundo : Makes allowed undo) : Makes allowed (orUndo operation undo) := by
  apply hoperation.result.bind
  intro result
  cases result with
  | ok value => exact pure value
  | error failure => exact hundo.result.discard.bind fun _ => throw failure

theorem mapM {items : List α} {next : α → Operation β}
    (hnext : ∀ item, Makes allowed (next item)) : Makes allowed (items.mapM next) := by
  induction items with
  | nil => exact pure []
  | cons item rest ih =>
      rw [List.mapM_cons]
      exact (hnext item).bind fun _ => ih.bind fun _ => pure _

theorem allowed_of_mem_events (hoperation : Makes allowed operation) {event : Event}
    (hevent : event ∈ events respond operation state) : allowed event.call :=
  Plan.Makes.allowed_of_mem_log hoperation hevent

theorem forall_mem_events {sound : σ → Prop} {holds : Event → Prop}
    (hoperation : Makes allowed operation)
    (hsound : ∀ call state, sound state → sound (respond call state).2)
    (hholds : ∀ call state, allowed call → sound state → holds ⟨call, (respond call state).1⟩)
    (hstart : sound state) : ∀ event ∈ events respond operation state, holds event :=
  Plan.Makes.forall_mem_log hoperation hsound hholds hstart

theorem mono {other : Call → Prop} (hoperation : Makes allowed operation)
    (hcalls : ∀ call, allowed call → other call) : Makes other operation :=
  Plan.Makes.mono hoperation hcalls

/-- What every allowed call keeps, an operation of allowed calls keeps. -/
theorem keeps (invariant : σ → Prop) (hoperation : Makes allowed operation)
    (hcalls : ∀ call state, allowed call → invariant state → invariant (respond call state).2)
    (hstart : invariant state) : invariant (runOn respond operation state).2 :=
  Plan.Makes.keeps invariant hoperation hcalls hstart

end Makes

end Operation

end ContainerNetwork
