import ContainerNetwork.Proofs.Failure
import ContainerNetwork.Proofs.Lifecycle.Teardown
import ContainerNetwork.SharedNetwork

/-!
# What a teardown reports

A teardown goes on after a failed step and reports what failed.  Two answers are no failures to
it: that there is nothing to look up, and that the container of an endpoint is gone.  All other
faults are reported, each once and in the order of the calls.  Among these is that an object is not
found once it was looked up: another teardown may have deleted it in between.
-/

namespace ContainerNetwork

open Operation

/-- The calls of which a teardown takes the fault for success: a lookup need not find anything, and
a container that is gone needs no detachment. -/
def HostFault.excusedFor? : HostFault → Option CallKind
  | endpointNotFound _ => some .endpointByName
  | networkNotFound _ => some .networkByName
  | computeSystemDoesNotExist => some .detachEndpoint
  | unspecified | other _ => none

/-- Whether a teardown takes some fault of these calls for success. -/
def CallKind.hasExcuse : CallKind → Bool
  | networkByName | endpointByName | detachEndpoint => true
  | _ => false

theorem HostFault.hasExcuse_of_excusedFor {fault : HostFault} {kind : CallKind}
    (hexcused : fault.excusedFor? = some kind) : kind.hasExcuse = true := by
  cases fault <;> cases hexcused <;> rfl

namespace Event

/-- The leaves of the failure that an answer is. -/
def failures : Event → List Failure
  | ⟨.networkByName _, answer⟩ | ⟨.createNetwork _, answer⟩ | ⟨.deleteNetwork _, answer⟩
  | ⟨.createEndpoint _, answer⟩ | ⟨.updateEndpoint _, answer⟩ | ⟨.deleteEndpoint _, answer⟩
  | ⟨.endpointById _, answer⟩ | ⟨.endpointByName _, answer⟩ | ⟨.attachEndpoint _ _, answer⟩
  | ⟨.detachEndpoint _ _, answer⟩ | ⟨.createRule _, answer⟩ | ⟨.deleteRule _, answer⟩
  | ⟨.ruleExists _, answer⟩ | ⟨.exec _ _ _, answer⟩ | ⟨.adapterExists _, answer⟩
  | ⟨.adapterMtu _, answer⟩ | ⟨.setAdapterMtu _ _, answer⟩ =>
      Failure.leavesOf (answer.mapError Failure.host)
  | ⟨.allocatePort _ _, answer⟩ | ⟨.releaseAllPorts _, answer⟩ => Failure.leavesOf answer
  | ⟨.sleep _, _⟩ => []

/-- What a teardown reports of an answer: its failures, but for a fault that is no failure there. -/
def reported (event : Event) : List Failure :=
  event.failures.filter fun
    | .host fault => fault.excusedFor? ≠ some event.call.kind
    | _ => true

/-- The fault is an answer to another call than the lookup that may be answered so. -/
def Misses (lookup : CallKind) (fault : HostFault) (event : Event) : Prop :=
  event.call.kind ≠ lookup ∧ .host fault ∈ event.failures

variable {event : Event}

theorem host_mem_reported_iff {fault : HostFault} :
    .host fault ∈ event.reported ↔
      fault.excusedFor? ≠ some event.call.kind ∧ .host fault ∈ event.failures := by
  rw [reported, List.mem_filter, and_comm, decide_eq_true_iff]

theorem host_mem_reported_of_excusedFor {fault : HostFault} {lookup : CallKind}
    (hexcused : fault.excusedFor? = some lookup) :
    .host fault ∈ event.reported ↔ event.Misses lookup fault := by
  rw [host_mem_reported_iff, hexcused, Misses, ne_eq, Option.some_inj, ne_comm]

/-- Calls of which no fault is excused are reported with all their failures. -/
theorem reported_eq_failures (event : Event) (hkind : event.call.kind.hasExcuse = false) :
    event.reported = event.failures := by
  apply List.filter_eq_self.mpr
  intro failure _
  split
  case h_1 fault =>
    apply decide_eq_true
    intro hexcused
    rw [HostFault.hasExcuse_of_excusedFor hexcused] at hkind
    cases hkind
  case h_2 => rfl

theorem reported_detachEndpoint (container id : String) (answer : Except HostFault Unit) :
    reported ⟨.detachEndpoint container id, answer⟩ =
      Failure.leavesOf (EndpointLifecycle.detachment (answer.mapError .host)) := by
  rcases answer with fault | _
  · cases fault with
    | computeSystemDoesNotExist => rfl
    | _ => rfl
  · rfl

end Event

section Runs

variable {σ : Type} (respond : (call : Call) → σ → call.Answer × σ)

theorem EndpointLifecycle.delete_events (container : String) (state : σ) :
    events respond (delete container) state =
      let looking := respond (.endpointByName container) state
      ⟨.endpointByName container, looking.1⟩ ::
        match looking with
        | (.error _, _) => []
        | (.ok endpoint, looked) =>
            let detached := respond (.detachEndpoint container endpoint.id) looked
            [⟨.detachEndpoint container endpoint.id, detached.1⟩,
              ⟨.deleteEndpoint endpoint, (respond (.deleteEndpoint endpoint) detached.2).1⟩] := by
  simp only [delete, events_bind, events_result, events_host, runOn_result, runOn_host,
    Plan.call, Program.run, Plan.log]
  rcases respond (.endpointByName container) state with ⟨fault | endpoint, looked⟩
  · cases fault with
    | endpointNotFound key => rfl
    | _ => rfl
  · rfl

theorem Enforcement.withdraw_events (enforcement : Enforcement) (container : String) (state : σ) :
    events respond (enforcement.withdraw container) state =
      let released := respond (.releaseAllPorts container) state
      ⟨.releaseAllPorts container, released.1⟩ ::
        match enforcement with
        | .policyEngine => []
        | .firewall =>
            [⟨.deleteRule container, (respond (.deleteRule container) released.2).1⟩] := by
  cases enforcement with
  | policyEngine => rfl
  | firewall =>
      simp only [withdraw, Firewall.withdraw, events_bind, events_result, events_host, events_pool,
        runOn_result, runOn_host, runOn_pool, Plan.call, Program.run, Plan.log]
      rfl

theorem ContainerLifecycle.down_events (settings : Settings) (handle : Handle) (state : σ) :
    events respond (down settings handle) state =
      events respond (EndpointLifecycle.delete handle.text) state ++
        events respond (settings.enforcement.withdraw handle.text)
          (runOn respond (EndpointLifecycle.delete handle.text) state).2 := by
  simp only [down, events_bind, events_result, runOn_result]
  exact congrArg _ (List.append_nil _)

/-- Deleting an endpoint reports what its calls report, in their order. -/
theorem EndpointLifecycle.delete_reports (container : String) (state : σ) :
    Failure.leavesOf (runOn respond (delete container) state).1 =
      (events respond (delete container) state).flatMap Event.reported := by
  rw [delete_runOn, delete_events]
  rcases respond (.endpointByName container) state with ⟨fault | endpoint, looked⟩
  · cases fault with
    | endpointNotFound key => rfl
    | _ => rfl
  · simp only [Failure.leavesOf_combine, List.flatMap_cons, List.flatMap_nil,
      Event.reported_detachEndpoint, Event.reported_eq_failures ⟨.deleteEndpoint endpoint, _⟩ rfl]
    rfl

theorem Enforcement.withdraw_reports (enforcement : Enforcement) (container : String) (state : σ) :
    Failure.leavesOf (runOn respond (enforcement.withdraw container) state).1 =
      (events respond (enforcement.withdraw container) state).flatMap Event.reported := by
  rw [withdraw_runOn, withdraw_events]
  cases enforcement with
  | policyEngine =>
      simp only [List.flatMap_cons, List.flatMap_nil, List.append_nil,
        Event.reported_eq_failures ⟨.releaseAllPorts container, _⟩ rfl]
      rfl
  | firewall =>
      simp only [Failure.leavesOf_combine, List.flatMap_cons, List.flatMap_nil,
        Event.reported_eq_failures ⟨.releaseAllPorts container, _⟩ rfl,
        Event.reported_eq_failures ⟨.deleteRule container, _⟩ rfl]
      rfl

/-- Taking a container down reports what all of its calls report, in their order. -/
theorem ContainerLifecycle.down_reports (settings : Settings) (handle : Handle) (state : σ) :
    Failure.leavesOf (runOn respond (down settings handle) state).1 =
      (events respond (down settings handle) state).flatMap Event.reported := by
  rw [down_runOn, down_events, List.flatMap_append, ← EndpointLifecycle.delete_reports,
    ← Enforcement.withdraw_reports]
  simp only [Failure.leavesOf_combine, List.flatMap_cons, List.flatMap_nil, List.append_nil]

/-- The network is looked for by its name and deleted if there is one. -/
theorem SharedNetwork.delete_runOn (settings : Settings) (state : σ) :
    runOn respond (delete settings) state =
      match respond (.networkByName settings.networkName) state with
      | (.error (.networkNotFound _), looked) => (.ok (), looked)
      | (.error fault, looked) => (.error (.host fault), looked)
      | (.ok network, looked) =>
          let deleted := respond (.deleteNetwork network) looked
          (deleted.1.mapError .host, deleted.2) := by
  simp only [delete, find?, runOn_bind, runOn_result, runOn_host, Plan.call, Program.run]
  rcases respond (.networkByName settings.networkName) state with ⟨fault | network, looked⟩
  · cases fault with
    | networkNotFound key => rfl
    | _ => rfl
  · exact runOn_host _

theorem SharedNetwork.delete_events (settings : Settings) (state : σ) :
    events respond (delete settings) state =
      let looking := respond (.networkByName settings.networkName) state
      ⟨.networkByName settings.networkName, looking.1⟩ ::
        match looking with
        | (.error _, _) => []
        | (.ok network, looked) =>
            [⟨.deleteNetwork network, (respond (.deleteNetwork network) looked).1⟩] := by
  simp only [delete, find?, events_bind, events_result, events_host, runOn_bind, runOn_result,
    runOn_host, Plan.call, Program.run, Plan.log]
  rcases respond (.networkByName settings.networkName) state with ⟨fault | network, looked⟩
  · cases fault with
    | networkNotFound key => rfl
    | _ => rfl
  · rfl

theorem SharedNetwork.delete_reports (settings : Settings) (state : σ) :
    Failure.leavesOf (runOn respond (delete settings) state).1 =
      (events respond (delete settings) state).flatMap Event.reported := by
  rw [delete_runOn, delete_events]
  rcases respond (.networkByName settings.networkName) state with ⟨fault | network, looked⟩
  · cases fault with
    | networkNotFound key => rfl
    | _ => rfl
  · simp only [List.flatMap_cons, List.flatMap_nil, List.append_nil,
      Event.reported_eq_failures ⟨.deleteNetwork network, _⟩ rfl]
    rfl

/-- Deleting the network ends in no failure of its own. -/
theorem SharedNetwork.delete_result (settings : Settings) (state : σ) :
    ∃ answer : Except HostFault Unit,
      (runOn respond (delete settings) state).1 = answer.mapError .host := by
  rw [delete_runOn]
  rcases respond (.networkByName settings.networkName) state with ⟨fault | network, looked⟩
  · cases fault with
    | networkNotFound key => exact ⟨.ok (), rfl⟩
    | _ => exact ⟨.error _, rfl⟩
  · exact ⟨_, rfl⟩

/-- What is looked up and then gone is reported as not found: when an endpoint is deleted, when a
container is taken down and when the network is deleted, not found is among the failures exactly if
another call than the lookup is answered so. -/
theorem ContainerLifecycle.not_found_reported_iff (settings : Settings) (container : String)
    (handle : Handle) (key : String) (state : σ) :
    (.host (.endpointNotFound key) ∈
        Failure.leavesOf (runOn respond (EndpointLifecycle.delete container) state).1 ↔
      ∃ event ∈ events respond (EndpointLifecycle.delete container) state,
        event.Misses .endpointByName (.endpointNotFound key)) ∧
    (.host (.endpointNotFound key) ∈
        Failure.leavesOf (runOn respond (down settings handle) state).1 ↔
      ∃ event ∈ events respond (down settings handle) state,
        event.Misses .endpointByName (.endpointNotFound key)) ∧
    ((runOn respond (SharedNetwork.delete settings) state).1 =
        .error (.host (.networkNotFound key)) ↔
      ∃ event ∈ events respond (SharedNetwork.delete settings) state,
        event.Misses .networkByName (.networkNotFound key)) := by
  have hendpoint (event : Event) : .host (.endpointNotFound key) ∈ event.reported ↔
      event.Misses .endpointByName (.endpointNotFound key) :=
    Event.host_mem_reported_of_excusedFor rfl
  have hnetwork (event : Event) : .host (.networkNotFound key) ∈ event.reported ↔
      event.Misses .networkByName (.networkNotFound key) :=
    Event.host_mem_reported_of_excusedFor rfl
  refine ⟨?_, ?_, ?_⟩
  · simp only [EndpointLifecycle.delete_reports, List.mem_flatMap, hendpoint]
  · simp only [down_reports, List.mem_flatMap, hendpoint]
  · obtain ⟨answer, hanswer⟩ := SharedNetwork.delete_result respond settings state
    calc
      (runOn respond (SharedNetwork.delete settings) state).1 =
          .error (.host (.networkNotFound key)) ↔
        .host (.networkNotFound key) ∈
          Failure.leavesOf (runOn respond (SharedNetwork.delete settings) state).1 := by
        rw [hanswer, Failure.mapError_host_eq_error_iff]
      _ ↔ _ := by simp only [SharedNetwork.delete_reports, List.mem_flatMap, hnetwork]

end Runs

namespace ContainerLifecycle

/-- A host whose endpoint and network are gone by the time they are deleted. -/
def vanishingHost : SimulatedHost where
  networks := [{ id := "net-1", name := "sluice-nat" }]
  endpoints := [{ id := "ep-1", name := "c1" }]
  faults
    | .deleteEndpoint => [some (.endpointNotFound "ep-1")]
    | .deleteNetwork => [some (.networkNotFound "net-1")]
    | _ => []

/-- An endpoint and a network that were found are reported as not found. -/
theorem not_found_reported_of_vanishing :
    let respond := SimulatedHost.respond ⟨40000, 5000⟩
    (runOn respond (EndpointLifecycle.delete "c1") vanishingHost).1 =
        .error (.host (.endpointNotFound "ep-1")) ∧
      .host (.endpointNotFound "ep-1") ∈
        Failure.leavesOf (runOn respond (down {} ⟨"c1", by decide⟩) vanishingHost).1 ∧
      (runOn respond (SharedNetwork.delete {}) vanishingHost).1 =
        .error (.host (.networkNotFound "net-1")) := by
  intro respond
  have hdelete : (runOn respond (EndpointLifecycle.delete "c1") vanishingHost).1 =
      .error (.host (.endpointNotFound "ep-1")) := rfl
  refine ⟨hdelete, ?_, rfl⟩
  rw [down_reports, down_events, List.flatMap_append, ← EndpointLifecycle.delete_reports, hdelete]
  exact List.mem_append_left _ (List.mem_singleton_self _)

end ContainerLifecycle

end ContainerNetwork
