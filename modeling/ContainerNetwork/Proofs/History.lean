import ContainerNetwork.Proofs.Except
import ContainerNetwork.Proofs.Plan

/-!
# Calls and what came before them

Whether a call is in order may depend on all the calls before it and on how the host answered them.
`Heeds` follows a plan along every sequence of answers and keeps the history of its calls; what it
says of a plan holds of every run on every host.
-/

namespace ContainerNetwork

/-- The history has grown, and some events are among the new ones, in this order. -/
def Adds (events history after : List Event) : Prop :=
  ∃ more, after = history ++ more ∧ events.Sublist more

namespace Adds

variable {events others history middle after : List Event}

theorem append {more : List Event} (hevents : events.Sublist more) :
    Adds events history (history ++ more) :=
  ⟨more, rfl, hevents⟩

theorem trans (hfirst : Adds events history middle) (hsecond : Adds others middle after) :
    Adds (events ++ others) history after := by
  obtain ⟨more, rfl, hevents⟩ := hfirst
  obtain ⟨further, rfl, hothers⟩ := hsecond
  exact ⟨more ++ further, List.append_assoc _ _ _, hevents.append hothers⟩

/-- What came in between may be left out. -/
theorem behind {between : List Event} (hadds : Adds events (history ++ between) after) :
    Adds events history after := by
  obtain ⟨more, rfl, hevents⟩ := hadds
  exact ⟨between ++ more, List.append_assoc _ _ _, hevents.trans (List.sublist_append_right _ _)⟩

theorem sublist (hadds : Adds events [] after) : events.Sublist after := by
  obtain ⟨more, rfl, hevents⟩ := hadds
  exact hevents

theorem mem {event : Event} (hadds : Adds events history after) (hevent : event ∈ events) :
    event ∈ after := by
  obtain ⟨more, rfl, hevents⟩ := hadds
  exact List.mem_append_right _ (hevents.subset hevent)

end Adds

namespace Plan

variable {σ α β : Type} {respond : (call : Call) → σ → call.Answer × σ} {state : σ}

/-- Whatever the answers, every call of the plan is allowed after the history before it, and the
result and the whole history are such as `ends` says. -/
def Heeds (allowed : List Event → Call → Prop) (ends : α → List Event → Prop) :
    Plan α → List Event → Prop
  | .done result, history => ends result history
  | .ask call next, history =>
      allowed history call ∧
        ∀ answer, Plan.Heeds allowed ends (next answer) (history ++ [⟨call, answer⟩])

variable {allowed : List Event → Call → Prop} {kind : Call → Prop}
variable {ends other : α → List Event → Prop} {plan : Plan α} {history : List Event}

theorem heeds_call (call : Call) {ends : call.Answer → List Event → Prop}
    (hallowed : allowed history call)
    (hends : ∀ answer, ends answer (history ++ [⟨call, answer⟩])) :
    (Plan.call call).Heeds allowed ends history :=
  ⟨hallowed, hends⟩

namespace Heeds

/-- What holds after a plan may be weakened, given that the history has only grown. -/
theorem imp (hplan : plan.Heeds allowed ends history)
    (hends : ∀ result more, ends result (history ++ more) → other result (history ++ more)) :
    plan.Heeds allowed other history := by
  induction plan generalizing history with
  | done result =>
      have hdone := hends result []
      rw [List.append_nil] at hdone
      exact hdone hplan
  | ask call next ih =>
      refine ⟨hplan.1, fun answer => ih answer (hplan.2 answer) fun result more hresult => ?_⟩
      rw [List.append_assoc] at hresult ⊢
      exact hends result _ hresult

theorem bind {next : α → Plan β} {last : β → List Event → Prop}
    (hplan : plan.Heeds allowed ends history)
    (hnext : ∀ result more, ends result (history ++ more) →
      (next result).Heeds allowed last (history ++ more)) :
    (plan >>= next).Heeds allowed last history := by
  change Plan.Heeds allowed last (plan.bind next) history
  induction plan generalizing history with
  | done result =>
      have hdone := hnext result []
      rw [List.append_nil] at hdone
      exact hdone hplan
  | ask call answered ih =>
      refine ⟨hplan.1, fun answer => ih answer (hplan.2 answer) fun result more hresult => ?_⟩
      rw [List.append_assoc] at hresult ⊢
      exact hnext result _ hresult

/-- Of a plan of which nothing is asked, nothing needs to be known. -/
theorem trivially (plan : Plan α) (history : List Event) :
    plan.Heeds (fun _ _ => True) (fun _ _ => True) history := by
  induction plan generalizing history with
  | done result => trivial
  | ask call next ih => exact ⟨trivial, fun answer => ih answer _⟩

/-- A plan that makes only calls of a kind may make them wherever that kind is allowed. -/
theorem within (hplan : plan.Heeds (fun _ _ => True) ends history) (hmakes : plan.Makes kind)
    (hallowed : ∀ more call, (∀ event ∈ more, kind event.call) → kind call →
      allowed (history ++ more) call) :
    plan.Heeds allowed (fun result after => ends result after ∧
      ∃ more, after = history ++ more ∧ ∀ event ∈ more, kind event.call) history := by
  induction plan generalizing history with
  | done result =>
      exact ⟨hplan, [], (List.append_nil _).symm, fun _ hmem => absurd hmem List.not_mem_nil⟩
  | ask call next ih =>
      have hfirst := hallowed [] call (fun _ hmem => absurd hmem List.not_mem_nil) hmakes.1
      rw [List.append_nil] at hfirst
      have hcons {answer : call.Answer} {more : List Event}
          (hmore : ∀ event ∈ more, kind event.call) :
          ∀ event ∈ ⟨call, answer⟩ :: more, kind event.call := by
        intro event hmem
        rcases List.mem_cons.mp hmem with rfl | hmem
        · exact hmakes.1
        · exact hmore event hmem
      refine ⟨hfirst, fun answer => (ih answer (hplan.2 answer) (hmakes.2 answer) ?_).imp ?_⟩
      · intro more later hmore hlater
        rw [List.append_assoc]
        exact hallowed _ later (hcons hmore) hlater
      · rintro result _ ⟨hresult, more, hafter, hmore⟩
        refine ⟨hresult, ⟨call, answer⟩ :: more, ?_, hcons hmore⟩
        rw [hafter, List.append_assoc, List.singleton_append]

theorem makes (hplan : plan.Heeds allowed ends history)
    (hkind : ∀ history call, allowed history call → kind call) : plan.Makes kind := by
  induction plan generalizing history with
  | done result => trivial
  | ask call next ih =>
      exact ⟨hkind history call hplan.1, fun answer => ih answer (hplan.2 answer)⟩

/-- Every call in the log of a run is allowed after the calls before it. -/
theorem allowed_of_log (hplan : plan.Heeds allowed ends history) {earlier later : List Event}
    {event : Event} (hlog : plan.log respond state = earlier ++ event :: later) :
    allowed (history ++ earlier) event.call := by
  induction plan generalizing history state earlier with
  | done result =>
      have hnil := List.append_eq_nil_iff.mp hlog.symm
      cases hnil.2
  | ask call next ih =>
      cases earlier with
      | nil =>
          obtain ⟨rfl, -⟩ := List.cons.inj hlog
          rw [List.append_nil]
          exact hplan.1
      | cons head rest =>
          obtain ⟨rfl, hrest⟩ := List.cons.inj hlog
          have hlater := ih _ (hplan.2 _) hrest
          rwa [List.append_assoc, List.singleton_append] at hlater

theorem ends_run (hplan : plan.Heeds allowed ends history) :
    ends (plan.run respond state).1 (history ++ plan.log respond state) := by
  induction plan generalizing history state with
  | done result =>
      rw [log, List.append_nil]
      exact hplan
  | ask call next ih =>
      rcases hresponded : respond call state with ⟨answer, after⟩
      simp only [Program.run, log, hresponded]
      rw [← List.singleton_append, ← List.append_assoc]
      exact ih answer (hplan.2 answer)

end Heeds

end Plan

namespace Operation

variable {σ α β : Type} {respond : (call : Call) → σ → call.Answer × σ} {state : σ}

/-- Whatever the answers, every call of the operation is allowed after the history before it, and
where the operation succeeds, its value and the whole history are such as `ends` says. -/
def Heeds (allowed : List Event → Call → Prop) (ends : α → List Event → Prop)
    (operation : Operation α) (history : List Event) : Prop :=
  Plan.Heeds allowed (fun result after => ∀ value, result = .ok value → ends value after)
    (ExceptT.run operation) history

/-- What an operation adds to the history where it succeeds, whatever calls it may make. -/
abbrev Reaches (ends : α → List Event → Prop) (operation : Operation α) (history : List Event) :
    Prop :=
  Heeds (fun _ _ => True) ends operation history

namespace Heeds

variable {allowed : List Event → Call → Prop} {kind : Call → Prop}
variable {ends other : α → List Event → Prop} {last : β → List Event → Prop}
variable {operation : Operation α} {next : α → Operation β} {history : List Event}

theorem pure {value : α} (hends : ends value history) :
    Heeds allowed ends (Pure.pure value : Operation α) history := by
  intro result hresult
  obtain rfl := Except.ok.inj hresult
  exact hends

theorem throw (failure : Failure) :
    Heeds allowed ends (throw failure : Operation α) history := by
  intro result hresult
  cases hresult

theorem ofExcept {result : Except Failure α}
    (hends : ∀ value, result = .ok value → ends value history) :
    Heeds allowed ends (Operation.ofExcept result) history :=
  hends

theorem imp (hoperation : Heeds allowed ends operation history)
    (hends : ∀ value more, ends value (history ++ more) → other value (history ++ more)) :
    Heeds allowed other operation history :=
  Plan.Heeds.imp hoperation fun _ more hresult value hvalue =>
    hends value more (hresult value hvalue)

theorem bind (hoperation : Heeds allowed ends operation history)
    (hnext : ∀ value more, ends value (history ++ more) →
      Heeds allowed last (next value) (history ++ more)) :
    Heeds allowed last (operation >>= next) history := by
  rw [Heeds, ExceptT.run_bind]
  apply Plan.Heeds.bind hoperation
  intro result more hresult
  cases result with
  | error failure =>
      intro value hvalue
      cases hvalue
  | ok value => exact hnext value more (hresult value rfl)

theorem discard {holds : List Event → Prop}
    (hoperation : Heeds allowed (fun _ => holds) operation history) :
    Heeds allowed (fun _ => holds) (discard operation) history := by
  rw [Functor.discard, LawfulFunctor.map_const, Function.comp, ← bind_pure_comp]
  exact hoperation.bind fun _ _ hlast => pure hlast

theorem result (hoperation : Heeds allowed ends operation history) :
    Heeds allowed (fun result after => ∀ value, result = .ok value → ends value after)
      (Operation.result operation) history := by
  rw [Heeds, Operation.result, ExceptT.run_lift, ← bind_pure_comp]
  apply Plan.Heeds.bind hoperation
  intro answer more hanswer value hvalue
  obtain rfl := Except.ok.inj hvalue
  exact hanswer

theorem host {plan : Plan (Except HostFault α)}
    (hplan : plan.Heeds allowed (fun answer after => ∀ value, answer = .ok value →
      ends value after) history) :
    Heeds allowed ends (host plan) history := by
  rw [Heeds, Operation.host, ExceptT.run_mk, ← bind_pure_comp]
  apply Plan.Heeds.bind hplan
  intro answer more hanswer value hvalue
  exact hanswer value (mapError_eq_ok hvalue)

theorem pool {plan : Plan (Except Failure α)}
    (hplan : plan.Heeds allowed (fun answer after => ∀ value, answer = .ok value →
      ends value after) history) :
    Heeds allowed ends (pool plan) history :=
  hplan

theorem sleep {milliseconds : Nat} {ends : Unit → List Event → Prop}
    (hallowed : allowed history (.sleep milliseconds))
    (hends : ends () (history ++ [⟨.sleep milliseconds, ()⟩])) :
    Heeds allowed ends (sleep milliseconds) history :=
  ⟨hallowed, fun _ _ _ => hends⟩

/-- An operation whose failure is undone ends as it does by itself where it succeeds. -/
theorem orUndo {undo : Operation β} (hoperation : Heeds allowed ends operation history)
    (hundo : ∀ more, Heeds allowed (fun _ _ => True) undo (history ++ more)) :
    Heeds allowed ends (orUndo operation undo) history := by
  apply hoperation.result.bind
  intro answer more hanswer
  cases answer with
  | ok value => exact pure (hanswer value rfl)
  | error failure =>
      have hundone : Heeds allowed (fun _ _ => True) (Operation.result undo) (history ++ more) :=
        (hundo more).result.imp fun _ _ _ => trivial
      exact hundone.discard.bind fun _ _ _ => throw failure

/-- Operations made one after the other on the items of a list, each by calls of its own. -/
theorem mapM {calls : α → List Event → Prop} {items : List α}
    (hnext : ∀ item history, Reaches (fun _ after => ∃ added, calls item added ∧
      after = history ++ added) (next item) history) (history : List Event) :
    Reaches (fun _ after => ∃ added, List.Forall₂ calls items added ∧
      after = history ++ added.flatten) (items.mapM next) history := by
  induction items generalizing history with
  | nil => exact pure ⟨[], .nil, (List.append_nil _).symm⟩
  | cons item rest ih =>
      rw [List.mapM_cons]
      apply (hnext item history).bind
      rintro value more ⟨first, hfirst, hmore⟩
      apply (ih _).bind
      rintro values further ⟨others, hothers, hfurther⟩
      refine pure ⟨first :: others, .cons hfirst hothers, ?_⟩
      rw [hfurther, hmore, List.flatten_cons, List.append_assoc]

/-- An operation that makes only calls of a kind may make them wherever that kind is allowed. -/
theorem within (hreaches : Reaches ends operation history) (hmakes : Makes kind operation)
    (hallowed : ∀ more call, (∀ event ∈ more, kind event.call) → kind call →
      allowed (history ++ more) call) :
    Heeds allowed (fun value after => ends value after ∧
      ∃ more, after = history ++ more ∧ ∀ event ∈ more, kind event.call) operation history :=
  (Plan.Heeds.within hreaches hmakes hallowed).imp fun _ _ ⟨hends, hmore⟩ value hvalue =>
    ⟨hends value hvalue, hmore⟩

theorem of_makes (hmakes : Makes kind operation)
    (hallowed : ∀ more call, kind call → allowed (history ++ more) call) :
    Heeds allowed (fun _ _ => True) operation history :=
  Plan.Heeds.imp (Plan.Heeds.within (.trivially _ history) hmakes fun more call _ =>
    hallowed more call) fun _ _ _ _ _ => trivial

theorem makes (hoperation : Heeds allowed ends operation history)
    (hkind : ∀ history call, allowed history call → kind call) : Makes kind operation :=
  Plan.Heeds.makes hoperation hkind

/-- Every call of a run is allowed after the calls before it. -/
theorem allowed_of_events (hoperation : Heeds allowed ends operation [])
    {earlier later : List Event} {event : Event}
    (hevents : events respond operation state = earlier ++ event :: later) :
    allowed earlier event.call :=
  Plan.Heeds.allowed_of_log hoperation hevents

theorem ends_of_ok (hoperation : Heeds allowed ends operation []) {value : α}
    (hrun : (runOn respond operation state).1 = .ok value) :
    ends value (events respond operation state) :=
  Plan.Heeds.ends_run hoperation value hrun

end Heeds

end Operation

end ContainerNetwork
