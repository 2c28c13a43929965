import ContainerNetwork.ContainerLifecycle
import ContainerNetwork.Proofs.Except
import ContainerNetwork.Proofs.Plan

/-!
# The calls of each step

Which calls the steps of bringing a container up and taking it down make, whatever the host
answers.  Each step has kinds of calls of its own.
-/

namespace ContainerNetwork

open Operation

variable {settings : Settings} {enforcement : Enforcement} {container : String}
variable {allowed : Call → Prop}

namespace Call

/-- The calls by which a created endpoint is attached to its container. -/
def Attaches (container id : String) : Call → Prop
  | attachEndpoint other endpointId => other = container ∧ endpointId = id
  | adapterExists adapter => adapter = adapterOf container
  | endpointById endpointId => endpointId = id
  | ruleExists name | deleteRule name => ∃ allocator : Allocator, name = allocator.generatedRule
  | sleep _ => True
  | _ => False

/-- The calls by which a port is forwarded to a container. -/
def Forwards (enforcement : Enforcement) (container : String) : Call → Prop
  | allocatePort holder _ => holder = container
  | exec other _ _ => other = container
  | createRule rule =>
      enforcement = .firewall ∧ rule.name = container ∧ rule.direction = .inbound
  | _ => False

/-- The calls by which outbound traffic of a container is allowed. -/
def Permits (enforcement : Enforcement) (container : String) : Call → Prop
  | createRule rule =>
      enforcement = .firewall ∧ rule.name = container ∧ rule.direction = .outbound
  | _ => False

/-- The call by which policies are added to an endpoint. -/
def Commits (endpoint : Endpoint) : Call → Prop
  | updateEndpoint asked =>
      ∃ added, asked = { endpoint with policies := endpoint.policies ++ added }
  | _ => False

/-- The calls by which the adapter of a container gets its MTU. -/
def Adapts (container : String) : Call → Prop
  | adapterMtu _ => True
  | setAdapterMtu adapter _ => adapter = adapterOf container
  | _ => False

/-- The calls by which the rules of a container are put in force. -/
def Installs (enforcement : Enforcement) (container : String) (endpoint : Endpoint) (call : Call) :
    Prop :=
  call.Forwards enforcement container ∨ call.Permits enforcement container ∨
    call.Commits endpoint ∨ call.Adapts container

/-- The calls by which what is kept for the rules of a container is given back. -/
def Withdraws (enforcement : Enforcement) (container : String) : Call → Prop
  | releaseAllPorts holder => holder = container
  | deleteRule name => enforcement = .firewall ∧ name = container
  | _ => False

/-! ### Their kinds -/

variable {call : Call} {id : String} {endpoint : Endpoint}

theorem Attaches.kind_mem (hattaches : call.Attaches container id) : call.kind ∈
    [CallKind.attachEndpoint, .adapterExists, .endpointById, .ruleExists, .deleteRule, .sleep] := by
  cases call with
  | attachEndpoint _ _ | adapterExists _ | endpointById _ | ruleExists _ | deleteRule _ | sleep _ =>
      simp [kind]
  | _ => exact hattaches.elim

theorem Forwards.kind_mem (hforwards : call.Forwards enforcement container) :
    call.kind ∈ [CallKind.allocatePort, .exec, .createRule] := by
  cases call with
  | allocatePort _ _ | exec _ _ _ | createRule _ => simp [kind]
  | _ => exact hforwards.elim

theorem Permits.kind_mem (hpermits : call.Permits enforcement container) :
    call.kind ∈ [CallKind.createRule] := by
  cases call with
  | createRule _ => simp [kind]
  | _ => exact hpermits.elim

theorem Commits.kind_mem (hcommits : call.Commits endpoint) :
    call.kind ∈ [CallKind.updateEndpoint] := by
  cases call with
  | updateEndpoint _ => simp [kind]
  | _ => exact hcommits.elim

theorem Adapts.kind_mem (hadapts : call.Adapts container) :
    call.kind ∈ [CallKind.adapterMtu, .setAdapterMtu] := by
  cases call with
  | adapterMtu _ | setAdapterMtu _ _ => simp [kind]
  | _ => exact hadapts.elim

theorem Installs.kind_mem (hinstalls : call.Installs enforcement container endpoint) :
    call.kind ∈ [CallKind.allocatePort, .exec, .createRule] ++
      ([CallKind.createRule] ++ ([CallKind.updateEndpoint] ++ [.adapterMtu, .setAdapterMtu])) := by
  simp only [List.mem_append]
  exact hinstalls.imp Forwards.kind_mem
    (Or.imp Permits.kind_mem (Or.imp Commits.kind_mem Adapts.kind_mem))

theorem Withdraws.kind_mem (hwithdraws : call.Withdraws enforcement container) :
    call.kind ∈ [CallKind.releaseAllPorts, .deleteRule] := by
  cases call with
  | releaseAllPorts _ | deleteRule _ => simp [kind]
  | _ => exact hwithdraws.elim

end Call

namespace EndpointLifecycle

theorem createRetrying_makes {asked : Endpoint} (hcreate : allowed (.createEndpoint asked))
    (retries : Nat) : Makes allowed (createRetrying asked retries) := by
  induction retries with
  | zero => exact .host (Plan.makes_call hcreate)
  | succ retries ih =>
      apply (Makes.host (Plan.makes_call hcreate)).result.bind
      intro answer
      split
      · exact .pure _
      · exact ih
      · exact .throw _

theorem awaitAdapter_makes {adapter : String} (hprobe : allowed (.adapterExists adapter))
    (hsleep : ∀ milliseconds, allowed (.sleep milliseconds)) (probes : Nat) :
    Makes allowed (awaitAdapter adapter probes) := by
  induction probes with
  | zero => exact .throw _
  | succ probes ih =>
      apply (Makes.host (Plan.makes_call hprobe)).bind
      intro found
      split
      · exact .pure _
      · exact (Makes.sleep (hsleep _)).bind fun _ => ih

theorem deleteGeneratedRule_makes (container id : String) (allocator : Allocator)
    (wait lookups : Nat) :
    Makes (Call.Attaches container id)
      (deleteGeneratedRule allocator.generatedRule wait lookups) := by
  induction lookups generalizing wait with
  | zero => exact .throw _
  | succ lookups ih =>
      apply (Makes.sleep trivial).bind
      intro _
      apply (Makes.host (Plan.makes_call ⟨allocator, rfl⟩)).bind
      intro found
      split
      · exact .host (Plan.makes_call ⟨allocator, rfl⟩)
      · exact ih _

theorem closeGeneratedRule_makes (container id : String) (endpoint : Endpoint) :
    Makes (Call.Attaches container id) (closeGeneratedRule endpoint) := by
  rw [closeGeneratedRule]
  split
  · exact .throw _
  · exact deleteGeneratedRule_makes container id _ _ _

/-- Attaches a created endpoint and asks the host how it then describes it. -/
def describe (container : String) (created : Endpoint) : Operation Endpoint := do
  host (.call (.attachEndpoint container created.id))
  awaitAdapter (adapterOf container) adapterProbes
  host (.call (.endpointById created.id))

theorem attach_eq (settings : Settings) (container : String) (created : Endpoint) :
    attach settings container created = (do
      let attached ← describe container created
      if settings.enforcement = .firewall then closeGeneratedRule attached
      return attached) := by
  simp only [attach, describe, bind_assoc]

theorem describe_makes {created : Endpoint}
    (hattach : allowed (.attachEndpoint container created.id))
    (hprobe : allowed (.adapterExists (adapterOf container)))
    (hsleep : ∀ milliseconds, allowed (.sleep milliseconds))
    (hfetch : allowed (.endpointById created.id)) : Makes allowed (describe container created) := by
  apply (Makes.host (Plan.makes_call hattach)).bind
  intro _
  apply (awaitAdapter_makes hprobe hsleep _).bind
  intro _
  exact .host (Plan.makes_call hfetch)

theorem attach_makes (settings : Settings) (container : String) (created : Endpoint) :
    Makes (Call.Attaches container created.id) (attach settings container created) := by
  rw [attach_eq]
  apply (describe_makes ⟨rfl, rfl⟩ (by exact rfl) (fun _ => trivial) (by exact rfl)).bind
  intro attached
  split
  · exact (closeGeneratedRule_makes container created.id attached).bind fun _ => .pure _
  · exact .pure _

theorem create_makes (settings : Settings) (hlookup : ∀ name, allowed (.networkByName name))
    (hcreate : ∀ asked : Endpoint, asked.name = container → allowed (.createEndpoint asked))
    (hattach : ∀ id call, call.Attaches container id → allowed call)
    (hdelete : ∀ endpoint, allowed (.deleteEndpoint endpoint)) :
    Makes allowed (create settings container) := by
  apply (Makes.host (Plan.makes_call (hlookup _))).bind
  intro network
  apply (createRetrying_makes (hcreate _ (by rfl)) _).bind
  intro created
  apply ((attach_makes settings container created).mono (hattach created.id)).result.bind
  intro attaching
  split
  · exact .pure _
  · exact (Makes.host (Plan.makes_call (hdelete _))).result.discard.bind fun _ => .throw _

theorem applyPolicies_makes (settings : Settings) (endpoint : Endpoint) (nat : List PortForward)
    (acl : List AclEntry) :
    Makes (Call.Commits endpoint) (applyPolicies settings endpoint nat acl) :=
  .host (Plan.makes_call ⟨_, rfl⟩)

theorem setMtu_makes (settings : Settings) (container : String) :
    Makes (Call.Adapts container) (setMtu settings container) := by
  rw [setMtu]
  split
  · apply (Makes.host (Plan.makes_call trivial)).bind
    intro mtu
    exact (Makes.host (Plan.makes_call (by exact rfl))).bind fun _ => .pure _
  · exact (Makes.host (Plan.makes_call (by exact rfl))).bind fun _ => .pure _

/-- Deleting the endpoint of a container looks it up by its name, detaches it and deletes it. -/
theorem delete_makes (hlookup : allowed (.endpointByName container))
    (hdetach : ∀ id, allowed (.detachEndpoint container id))
    (hdelete : ∀ endpoint, allowed (.deleteEndpoint endpoint)) :
    Makes allowed (delete container) := by
  apply (Makes.host (Plan.makes_call hlookup)).result.bind
  intro found
  split
  · exact .pure _
  · exact .throw _
  · apply (Makes.host (Plan.makes_call (hdetach _))).result.bind
    intro detached
    apply (Makes.host (Plan.makes_call (hdelete _))).result.bind
    intro deleted
    exact .ofExcept _

end EndpointLifecycle

namespace Enforcement

theorem permitHttp_makes {container : String}
    (hexec : ∀ command timeout, allowed (.exec container command timeout)) (port : UInt32)
    (timeout : Nat) : Makes allowed (ContainerCommand.permitHttp container port timeout) := by
  apply (Makes.host (Plan.makes_call (hexec _ _))).bind
  intro ending
  cases ending with
  | timedOut => exact .throw _
  | exited code =>
      dsimp only
      split
      · exact .throw _
      · exact .pure _

theorem port_makes (number : UInt32) : Makes allowed (InboundRule.port number) := by
  rw [InboundRule.port]
  split
  · exact .pure _
  · exact .throw _

theorem reserveHostPort_makes {container : String}
    (hallocate : ∀ port, allowed (.allocatePort container port)) (rule : InboundRule) :
    Makes allowed (rule.reserveHostPort container) :=
  (port_makes _).bind fun _ => .pool (Plan.makes_call (hallocate _))

theorem forward_makes (enforcement : Enforcement) (container : String) (rule : InboundRule)
    (address : Address) :
    Makes (Call.Forwards enforcement container) (enforcement.forward container rule address) := by
  cases enforcement with
  | policyEngine =>
      apply (port_makes _).bind
      intro containerPort
      apply (reserveHostPort_makes (fun _ => rfl) rule).bind
      intro hostPort
      exact (permitHttp_makes (fun _ _ => rfl) _ _).bind fun _ => .pure _
  | firewall =>
      apply (port_makes _).bind
      intro containerPort
      apply (reserveHostPort_makes (fun _ => rfl) rule).bind
      intro hostPort
      apply (Makes.host (Plan.makes_call ⟨rfl, rfl, rfl⟩)).bind
      intro _
      exact (permitHttp_makes (fun _ _ => rfl) _ _).bind fun _ => .pure _

theorem outboundRule_eq_ok {rule : OutboundRule} {address : Address} {created : FirewallRule}
    (hcreated : Firewall.outboundRule container rule address = .ok created) :
    created.name = container ∧ created.direction = .outbound := by
  obtain ⟨numbered, _, hrule⟩ := bind_eq_ok_iff.mp hcreated
  cases hrule
  exact ⟨rfl, rfl⟩

theorem permit_makes (enforcement : Enforcement) (container : String) (rule : OutboundRule)
    (address : Address) :
    Makes (Call.Permits enforcement container) (enforcement.permit container rule address) := by
  cases enforcement with
  | policyEngine => exact .ofExcept _
  | firewall =>
      apply Makes.ofExcept_bind
      intro created hcreated
      exact (Makes.host (Plan.makes_call ⟨rfl, outboundRule_eq_ok hcreated⟩)).bind fun _ => .pure _

theorem withdraw_makes (enforcement : Enforcement) (container : String) :
    Makes (Call.Withdraws enforcement container) (enforcement.withdraw container) := by
  cases enforcement with
  | policyEngine => exact .pool (Plan.makes_call (by exact rfl))
  | firewall =>
      apply (Makes.pool (Plan.makes_call (by exact rfl))).result.bind
      intro released
      apply (Makes.host (Plan.makes_call ⟨rfl, rfl⟩)).result.bind
      intro deleted
      exact .ofExcept _

end Enforcement

namespace ContainerLifecycle

theorem install_makes (settings : Settings) (container : String) (request : Request)
    (endpoint : Endpoint) :
    Makes (Call.Installs settings.enforcement container endpoint)
      (install settings container request endpoint) := by
  rw [install]
  split
  · apply Makes.bind (.mapM fun rule =>
      (Enforcement.forward_makes settings.enforcement container rule _).mono fun _ => .inl)
    intro inbound
    apply Makes.bind (.mapM fun rule =>
      (Enforcement.permit_makes settings.enforcement container rule _).mono
        fun _ hpermits => .inr (.inl hpermits))
    intro outbound
    apply ((EndpointLifecycle.applyPolicies_makes settings endpoint _ _).mono
      fun _ hcommits => .inr (.inr (.inl hcommits))).discard.bind
    intro _
    apply ((EndpointLifecycle.setMtu_makes settings container).mono
      fun _ hadapts => .inr (.inr (.inr hadapts))).discard.bind
    intro _
    exact .pure _
  · exact .throw _

theorem down_makes {handle : Handle} (hlookup : allowed (.endpointByName handle.text))
    (hdetach : ∀ id, allowed (.detachEndpoint handle.text id))
    (hdelete : ∀ endpoint, allowed (.deleteEndpoint endpoint))
    (hwithdraw : ∀ call, call.Withdraws settings.enforcement handle.text → allowed call) :
    Makes allowed (down settings handle) := by
  apply (EndpointLifecycle.delete_makes hlookup hdetach hdelete).result.bind
  intro deleted
  have hwithdrawn := (Enforcement.withdraw_makes settings.enforcement handle.text).mono hwithdraw
  apply hwithdrawn.result.bind
  intro withdrawn
  exact .ofExcept _

end ContainerLifecycle

end ContainerNetwork
