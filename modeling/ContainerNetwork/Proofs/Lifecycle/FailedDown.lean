import ContainerNetwork.Proofs.Lifecycle.TeardownFailures
import ContainerNetwork.Proofs.PortPool.Update

/-!
# A teardown that fails

Every step of a teardown is attempted, whatever becomes of the steps before it; only where the
endpoint is not found there is nothing to detach and delete.  What the teardown ends in says of
each step that failed that it did, in the order of the steps: the failures are nested as the
steps are, with a failure that has no other beside it left as it is.
-/

namespace ContainerNetwork

open Operation

namespace Event

/-- The failure of a step of a teardown.  It is none that there is nothing to look up, and neither
is it that the container of the endpoint is gone. -/
def failedStep? : Event → Option Failure
  | ⟨.endpointByName _, .error (.endpointNotFound _)⟩
  | ⟨.detachEndpoint _ _, .error .computeSystemDoesNotExist⟩ => none
  | ⟨.endpointByName _, .error fault⟩ | ⟨.detachEndpoint _ _, .error fault⟩
  | ⟨.deleteEndpoint _, .error fault⟩ | ⟨.deleteRule _, .error fault⟩ => some (.host fault)
  | ⟨.releaseAllPorts _, .error failure⟩ => some failure
  | _ => none

/-- What a teardown reports of a step is its failure, where that is not combined of others. -/
theorem reported_eq_failedStep {event : Event} (hcall : event.call.TakesDown)
    (hleaf : ∀ container failure, event = ⟨.releaseAllPorts container, .error failure⟩ →
      failure.leaves = [failure]) :
    event.reported = event.failedStep?.toList := by
  obtain ⟨call, answer⟩ := event
  cases call
  case endpointByName name =>
    rcases answer with fault | endpoint
    · cases fault <;> rfl
    · rfl
  case detachEndpoint container id =>
    rcases answer with fault | _
    · cases fault <;> rfl
    · rfl
  case deleteEndpoint endpoint =>
    rw [reported_eq_failures _ rfl]
    cases answer <;> rfl
  case deleteRule name =>
    rw [reported_eq_failures _ rfl]
    cases answer <;> rfl
  case releaseAllPorts container =>
    rw [reported_eq_failures _ rfl]
    cases answer with
    | ok value => rfl
    | error failure => exact hleaf container failure rfl
  all_goals cases hcall

end Event

/-- The calls that give back what is kept for the rules of a container, with any answers. -/
inductive Enforcement.Withdrawal (container : String) : Enforcement → List Event → Prop
  | policyEngine (released : Except Failure Unit) :
      Withdrawal container .policyEngine [⟨.releaseAllPorts container, released⟩]
  | firewall (released : Except Failure Unit) (deleted : Except HostFault Unit) :
      Withdrawal container .firewall
        [⟨.releaseAllPorts container, released⟩, ⟨.deleteRule container, deleted⟩]

/-- The calls of a teardown, with any answers. -/
inductive ContainerLifecycle.Teardown (enforcement : Enforcement) (container : String) :
    List Event → Prop
  | missing {fault : HostFault} {withdrawal : List Event}
      (hwithdrawal : enforcement.Withdrawal container withdrawal) :
      Teardown enforcement container
        (⟨.endpointByName container, .error fault⟩ :: withdrawal)
  | found {endpoint : Endpoint} {detached deleted : Except HostFault Unit}
      {withdrawal : List Event} (hwithdrawal : enforcement.Withdrawal container withdrawal) :
      Teardown enforcement container
        (⟨.endpointByName container, .ok endpoint⟩ ::
          ⟨.detachEndpoint container endpoint.id, detached⟩ ::
          ⟨.deleteEndpoint endpoint, deleted⟩ :: withdrawal)

/-- The pool file gives back ports or fails for a reason of its own. -/
theorem PortPool.leaves_of_releaseAll {place : FilePlace} {container : String} {tree : FileTree}
    {failure : Failure} (hrun : ((releaseAll place container).runOn tree).1 = .error failure) :
    failure.leaves = [failure] := by
  have houtcome := update_outcome place (fun pool => .ok ((), pool.release container)) tree
  rw [releaseAll] at hrun
  generalize (update place _).runOn tree = run at hrun houtcome
  cases houtcome with
  | unlocked hprepared hlock => cases hrun; rfl
  | unread hprepared hlock hnone => cases hrun; rfl
  | refused hprepared hlock hheld hchoose => cases hchoose
  | unwritten hprepared hlock hheld hchoose hcreate => cases hrun; rfl
  | stored hprepared hlock hheld hchoose hreplaced => cases hrun

section Runs

variable {σ : Type} (respond : (call : Call) → σ → call.Answer × σ)

theorem Enforcement.withdrawal_events (enforcement : Enforcement) (container : String)
    (state : σ) :
    enforcement.Withdrawal container
      (events respond (enforcement.withdraw container) state) := by
  rw [withdraw_events]
  cases enforcement with
  | policyEngine => exact .policyEngine _
  | firewall => exact .firewall _ _

theorem ContainerLifecycle.teardown_events (settings : Settings) (handle : Handle) (state : σ) :
    Teardown settings.enforcement handle.text (events respond (down settings handle) state) := by
  rw [down_events, EndpointLifecycle.delete_events]
  have hwithdrawal := settings.enforcement.withdrawal_events respond handle.text
    (runOn respond (EndpointLifecycle.delete handle.text) state).2
  rcases respond (.endpointByName handle.text) state with ⟨fault | endpoint, looked⟩
  · exact .missing hwithdrawal
  · exact .found hwithdrawal

/-- Deleting an endpoint ends in a gathered failure, if in any. -/
theorem EndpointLifecycle.delete_endsGathered (container : String) (state : σ) :
    Failure.EndsGathered (runOn respond (delete container) state).1 := by
  rw [delete_runOn]
  rcases respond (.endpointByName container) state with ⟨fault | endpoint, looked⟩
  · cases fault with
    | endpointNotFound key => exact fun failure hfailure => by cases hfailure
    | _ => exact Failure.endsGathered_mapError_host (.error _ : Except HostFault Unit)
  · have hdetached (answer : Except HostFault Unit) :
        Failure.EndsGathered (detachment (answer.mapError .host)) := by
      intro failure hfailure
      apply Failure.endsGathered_mapError_host answer
      generalize answer.mapError Failure.host = result at hfailure ⊢
      unfold detachment at hfailure
      split at hfailure
      · cases hfailure
      · exact hfailure
    exact Failure.endsGathered_combine <| List.forall_mem_cons.mpr
      ⟨hdetached _, List.forall_mem_singleton.mpr (Failure.endsGathered_mapError_host _)⟩

/-- Withdrawing ends in a gathered failure, if in any, where giving back the ports does. -/
theorem Enforcement.withdraw_endsGathered (enforcement : Enforcement) (container : String)
    (state : σ)
    (hreleased : Failure.EndsGathered (respond (.releaseAllPorts container) state).1) :
    Failure.EndsGathered (runOn respond (enforcement.withdraw container) state).1 := by
  rw [withdraw_runOn]
  cases enforcement with
  | policyEngine => exact hreleased
  | firewall =>
      exact Failure.endsGathered_combine <| List.forall_mem_cons.mpr
        ⟨hreleased, List.forall_mem_singleton.mpr (Failure.endsGathered_mapError_host _)⟩

namespace ContainerLifecycle

variable {place : FilePlace} {settings : Settings} {handle : Handle} {state : σ}

/-- Taking a container down ends in a gathered failure, if in any, where giving back its ports
fails for one reason only. -/
theorem down_endsGathered (hleaf : ∀ failure : Failure,
      ⟨.releaseAllPorts handle.text, .error failure⟩ ∈ events respond (down settings handle) state →
      failure.leaves = [failure]) :
    Failure.EndsGathered (runOn respond (down settings handle) state).1 := by
  have hreleased : Failure.EndsGathered (respond (.releaseAllPorts handle.text)
      (runOn respond (EndpointLifecycle.delete handle.text) state).2).1 := by
    intro failure hfailure
    apply Failure.Gathered.leaf (hleaf failure _)
    rw [down_events, Enforcement.withdraw_events, ← hfailure]
    exact List.mem_append_right _ List.mem_cons_self
  rw [down_runOn]
  exact Failure.endsGathered_combine <| List.forall_mem_cons.mpr
    ⟨EndpointLifecycle.delete_endsGathered respond handle.text state,
      List.forall_mem_singleton.mpr
        (settings.enforcement.withdraw_endsGathered respond handle.text _ hreleased)⟩

/-- What a teardown reports of its steps are their failures. -/
theorem reported_eq_failedStep_of_mem (hleaf : ∀ failure : Failure,
      ⟨.releaseAllPorts handle.text, .error failure⟩ ∈ events respond (down settings handle) state →
      failure.leaves = [failure]) :
    ∀ event ∈ events respond (down settings handle) state,
      event.reported = event.failedStep?.toList := by
  have hcalls : Makes (fun call => call.TakesDown ∧
      ∀ container, call = .releaseAllPorts container → container = handle.text)
      (down settings handle) := by
    refine down_makes ⟨trivial, nofun⟩ (fun _ => ⟨trivial, nofun⟩) (fun _ => ⟨trivial, nofun⟩) ?_
    intro call hcall
    cases call with
    | releaseAllPorts holder =>
        refine ⟨trivial, fun container hsame => ?_⟩
        cases hsame
        exact hcall
    | deleteRule name => exact ⟨trivial, nofun⟩
    | _ => cases hcall
  intro event hevent
  obtain ⟨hdown, hown⟩ := hcalls.allowed_of_mem_events hevent
  apply Event.reported_eq_failedStep hdown
  rintro container failure rfl
  exact hleaf failure (hown container rfl ▸ hevent)

/-- Every step of a teardown is attempted and every step that fails is reported: the leaves of what
it ends in are the failures of its steps, in the order of the steps. -/
theorem down_reports_failed_steps (settings : Settings) (handle : Handle) (state : σ)
    (hpool : ∀ answer : Except Failure Unit, ⟨.releaseAllPorts handle.text, answer⟩ ∈
        events respond (down settings handle) state →
      ∃ tree, ((PortPool.releaseAll place handle.text).runOn tree).1 = answer) :
    let log := events respond (down settings handle) state
    Teardown settings.enforcement handle.text log ∧
      Failure.Reports (log.filterMap Event.failedStep?)
        (runOn respond (down settings handle) state).1 := by
  intro log
  have hleaf (failure : Failure)
      (hmem : ⟨.releaseAllPorts handle.text, .error failure⟩ ∈ log) :
      failure.leaves = [failure] := by
    obtain ⟨tree, hrun⟩ := hpool _ hmem
    exact PortPool.leaves_of_releaseAll hrun
  have hlog : Failure.leavesOf (runOn respond (down settings handle) state).1 =
      log.filterMap Event.failedStep? := by
    calc
      _ = log.flatMap Event.reported := down_reports respond settings handle state
      _ = log.flatMap fun event => event.failedStep?.toList :=
        List.flatMap_congr (reported_eq_failedStep_of_mem respond hleaf)
      _ = log.filterMap Event.failedStep? := (List.filterMap_eq_flatMap_toList _ _).symm
  exact ⟨teardown_events respond settings handle state,
    hlog ▸ Failure.reports_leavesOf (down_endsGathered respond hleaf)⟩

end ContainerLifecycle

end Runs

namespace ContainerLifecycle

/-- A host that cannot detach endpoints or delete firewall rules, with a directory where the pool
file should be. -/
def stuckHost : SimulatedHost where
  endpoints := [{ id := "ep-1", name := "c1" }]
  files := ⟨[(["ports.json"], .directory)]⟩
  faults
    | .detachEndpoint => [some (.other "busy")]
    | .deleteRule => [some .unspecified]
    | _ => []

/-- The failures of three steps, two of them within the withdrawal of the rules. -/
theorem stuckHost_reports_failed_steps :
    let respond := SimulatedHost.respond ⟨40000, 5000⟩
    let settings : Settings := { enforcement := .firewall }
    let handle : Handle := ⟨"c1", by decide⟩
    let log := events respond (down settings handle) stuckHost
    (∀ answer : Except Failure Unit, ⟨.releaseAllPorts handle.text, answer⟩ ∈ log →
      ∃ tree, ((PortPool.releaseAll SimulatedHost.poolPlace handle.text).runOn tree).1 = answer) ∧
    Teardown .firewall handle.text log ∧
    Failure.Reports [.host (.other "busy"), .decodeState, .host .unspecified]
      (runOn respond (down settings handle) stuckHost).1 := by
  intro respond settings handle log
  have hlog : log = [
      ⟨.endpointByName "c1", .ok { id := "ep-1", name := "c1" }⟩,
      ⟨.detachEndpoint "c1" "ep-1", .error (.other "busy")⟩,
      ⟨.deleteEndpoint { id := "ep-1", name := "c1" }, .ok ()⟩,
      ⟨.releaseAllPorts "c1", .error .decodeState⟩,
      ⟨.deleteRule "c1", .error .unspecified⟩] := rfl
  have hpool (answer : Except Failure Unit) (hmem : ⟨.releaseAllPorts handle.text, answer⟩ ∈ log) :
      ∃ tree, ((PortPool.releaseAll SimulatedHost.poolPlace handle.text).runOn tree).1 =
        answer := by
    have hanswer : answer = .error .decodeState := by simpa [hlog, handle] using hmem
    refine ⟨stuckHost.files, ?_⟩
    rw [hanswer]
    rfl
  obtain ⟨hteardown, hreports⟩ := down_reports_failed_steps respond settings handle stuckHost hpool
  refine ⟨hpool, hteardown, ?_⟩
  have hfailed : log.filterMap Event.failedStep? =
      [.host (.other "busy"), .decodeState, .host .unspecified] := by
    rw [hlog]
    rfl
  exact hfailed ▸ hreports

end ContainerLifecycle

end ContainerNetwork
