import ContainerNetwork.Proofs.History
import ContainerNetwork.Proofs.Lifecycle.FailedUp

/-!
# Milestones of the way up

The successful calls that a container has behind it at each stage of the way up: its endpoint is
attached, its ports are forwarded, its outbound traffic is allowed, the endpoint is updated and the
MTU is set.
-/

namespace ContainerNetwork

open Operation

/-- The stages in which the rules of a container are put in force. -/
inductive Stage where
  | forwarding
  | permitting
  | committing
  | adapting
  | finished
  deriving DecidableEq

/-- The successful calls that delete the rule which the host made for an attached endpoint; they are
needed where the host firewall enforces the rules. -/
inductive Closes (attached : Endpoint) : Enforcement → List Event → Prop
  | unneeded : Closes attached .policyEngine []
  | deleted {allocator : Allocator} {rule : String} (hport : attached.port? = some allocator)
      (hrule : rule =
        "Compartment " ++ Decimal.text allocator.compartment.toNat ++ " - " ++
          allocator.portGuid) :
      Closes attached .firewall [⟨.ruleExists rule, .ok true⟩, ⟨.deleteRule rule, .ok ()⟩]

/-- The command that lets the users of a container serve HTTP on a port. -/
def ContainerCommand.httpPermission (port : UInt32) : String :=
  "netsh " ++ Pieces.join " "
    ["http", "add", "urlacl", "url=http://*:" ++ Decimal.text port.toNat ++ "/", "user=Users"]

/-- A command that a container has run with success. -/
def Event.granted (container : String) (port : UInt32) : Event :=
  ⟨.exec container (ContainerCommand.httpPermission port) ContainerCommand.defaultTimeout,
    .ok (.exited 0)⟩

/-- The successful calls by which a port is forwarded to a container. -/
inductive Forwarded (container : String) (address : Address) (rule : InboundRule) :
    Enforcement → List Event → Prop
  | engine (hostPort : UInt16) : Forwarded container address rule .policyEngine
      [⟨.allocatePort container rule.hostPort.toUInt16, .ok hostPort⟩,
        .granted container rule.containerPort]
  | firewall (hostPort : UInt16) : Forwarded container address rule .firewall
      [⟨.allocatePort container rule.hostPort.toUInt16, .ok hostPort⟩,
        ⟨.createRule (Firewall.inboundRule container address rule.containerPort.toUInt16), .ok ()⟩,
        .granted container rule.containerPort]

/-- The successful calls by which outbound traffic of a container is allowed. -/
inductive Permitted (container : String) (address : Address) (rule : OutboundRule) :
    Enforcement → List Event → Prop
  | engine {entry : AclEntry} (hentry : PolicyEngine.outboundEntry rule = .ok entry) :
      Permitted container address rule .policyEngine []
  | firewall {created : FirewallRule}
      (hcreated : Firewall.outboundRule container rule address = .ok created) :
      Permitted container address rule .firewall [⟨.createRule created, .ok ()⟩]

/-- The successful calls, in their order, that a container whose endpoint is `attached` has behind
it when a stage begins. -/
inductive Milestones (settings : Settings) (container : String) (request : Request)
    (attached : Endpoint) : Stage → List Event → Prop
  | joined {asked created : Endpoint} {closing : List Event} (hname : asked.name = container)
      (hclosing : Closes attached settings.enforcement closing) :
      Milestones settings container request attached .forwarding
        ([⟨.createEndpoint asked, .ok created⟩, ⟨.attachEndpoint container created.id, .ok ()⟩,
          ⟨.adapterExists ("vEthernet (" ++ container ++ ")"), .ok true⟩,
          ⟨.endpointById created.id, .ok attached⟩] ++ closing)
  | forwarded {passed : List Event} {calls : List (List Event)} {address : Address}
      (hpassed : Milestones settings container request attached .forwarding passed)
      (haddress : attached.address = some address)
      (hcalls : List.Forall₂ (fun rule => Forwarded container address rule settings.enforcement)
        request.inbound calls) :
      Milestones settings container request attached .permitting (passed ++ calls.flatten)
  | permitted {passed : List Event} {calls : List (List Event)} {address : Address}
      (hpassed : Milestones settings container request attached .permitting passed)
      (haddress : attached.address = some address)
      (hcalls : List.Forall₂ (fun rule => Permitted container address rule settings.enforcement)
        request.outbound calls) :
      Milestones settings container request attached .committing (passed ++ calls.flatten)
  | committed {passed : List Event} {added : List Policy} {updated : Endpoint}
      (hpassed : Milestones settings container request attached .committing passed) :
      Milestones settings container request attached .adapting
        (passed ++ [⟨.updateEndpoint { attached with policies := attached.policies ++ added },
          .ok updated⟩])
  | adapted {passed : List Event} {mtu : UInt32}
      (hpassed : Milestones settings container request attached .adapting passed) :
      Milestones settings container request attached .finished
        (passed ++ [⟨.setAdapterMtu ("vEthernet (" ++ container ++ ")") mtu, .ok ()⟩])

variable {settings : Settings} {container : String} {request : Request} {attached : Endpoint}
variable {enforcement : Enforcement}

/-! ## Calls that succeed -/

namespace EndpointLifecycle

theorem createRetrying_reaches (asked : Endpoint) (retries : Nat) (history : List Event) :
    Reaches (fun created => Adds [⟨.createEndpoint asked, .ok created⟩] history)
      (createRetrying asked retries) history := by
  induction retries generalizing history with
  | zero =>
      refine .host (Plan.heeds_call (.createEndpoint asked) trivial ?_)
      rintro _ created rfl
      exact .append (List.Sublist.refl _)
  | succ retries ih =>
      have hcreate : Reaches (fun created => Adds [⟨.createEndpoint asked, .ok created⟩] history)
          (host (.call (.createEndpoint asked))) history := by
        refine .host (Plan.heeds_call (.createEndpoint asked) trivial ?_)
        rintro _ created rfl
        exact .append (List.Sublist.refl _)
      apply hcreate.result.bind
      intro answer more hanswer
      split
      · exact .pure (hanswer _ rfl)
      · exact (ih _).imp fun _ _ hadds => hadds.behind
      · exact .throw _

theorem awaitAdapter_reaches (adapter : String) (probes : Nat) (history : List Event) :
    Reaches (fun _ => Adds [⟨.adapterExists adapter, .ok true⟩] history)
      (awaitAdapter adapter probes) history := by
  induction probes generalizing history with
  | zero => exact .throw _
  | succ probes ih =>
      have hprobe : Reaches
          (fun found after => after = history ++ [⟨.adapterExists adapter, .ok found⟩])
          (host (.call (.adapterExists adapter))) history := by
        refine .host (Plan.heeds_call (.adapterExists adapter) trivial ?_)
        rintro _ found rfl
        rfl
      apply hprobe.bind
      intro found more hfound
      split
      · rename_i htrue
        rw [hfound, htrue]
        exact .pure (.append (List.Sublist.refl _))
      · have hwait : Reaches (fun _ _ => True) (sleep probeInterval) (history ++ more) :=
          .sleep trivial trivial
        apply hwait.bind
        intro _ _ _
        exact (ih _).imp fun _ _ hadds => hadds.behind.behind

theorem deleteGeneratedRule_reaches (rule : String) (wait lookups : Nat) (history : List Event) :
    Reaches (fun _ => Adds [⟨.ruleExists rule, .ok true⟩, ⟨.deleteRule rule, .ok ()⟩] history)
      (deleteGeneratedRule rule wait lookups) history := by
  induction lookups generalizing wait history with
  | zero => exact .throw _
  | succ lookups ih =>
      have hwait : Reaches (fun _ _ => True) (sleep wait) history := .sleep trivial trivial
      apply hwait.bind
      intro _ waited _
      have hlookup : Reaches
          (fun found => Adds [⟨.ruleExists rule, .ok found⟩] (history ++ waited))
          (host (.call (.ruleExists rule))) (history ++ waited) := by
        refine .host (Plan.heeds_call (.ruleExists rule) trivial ?_)
        rintro _ found rfl
        exact .append (List.Sublist.refl _)
      apply hlookup.bind
      intro found more hfound
      split
      · rename_i htrue
        rw [htrue] at hfound
        refine .host (Plan.heeds_call (.deleteRule rule) trivial ?_)
        rintro _ deleted rfl
        exact hfound.behind.trans (.append (List.Sublist.refl _))
      · exact (ih _ _).imp fun _ _ hadds => hadds.behind.behind

theorem describe_reaches (container : String) (created : Endpoint) (history : List Event) :
    Reaches (fun attached => Adds [⟨.attachEndpoint container created.id, .ok ()⟩,
        ⟨.adapterExists (adapterOf container), .ok true⟩,
        ⟨.endpointById created.id, .ok attached⟩] history)
      (describe container created) history := by
  have hjoin : Reaches (fun _ => Adds [⟨.attachEndpoint container created.id, .ok ()⟩] history)
      (host (.call (.attachEndpoint container created.id))) history := by
    refine .host (Plan.heeds_call (.attachEndpoint container created.id) trivial ?_)
    rintro _ joined rfl
    exact .append (List.Sublist.refl _)
  apply hjoin.bind
  intro _ joining hjoined
  apply (awaitAdapter_reaches (adapterOf container) adapterProbes (history ++ joining)).bind
  intro _ waiting hwaited
  refine .host (Plan.heeds_call (.endpointById created.id) trivial ?_)
  rintro _ attached rfl
  exact hjoined.trans (hwaited.trans (.append (List.Sublist.refl _)))

theorem attach_reaches (settings : Settings) (container : String) (created : Endpoint)
    (history : List Event) :
    Reaches (fun attached after => ∃ closing, Closes attached settings.enforcement closing ∧
        Adds ([⟨.attachEndpoint container created.id, .ok ()⟩,
          ⟨.adapterExists (adapterOf container), .ok true⟩,
          ⟨.endpointById created.id, .ok attached⟩] ++ closing) history after)
      (attach settings container created) history := by
  rw [attach_eq]
  apply (describe_reaches container created history).bind
  intro attached describing hattached
  cases henforcement : settings.enforcement with
  | policyEngine => exact .pure ⟨[], .unneeded, hattached⟩
  | firewall =>
      simp only [if_true, closeGeneratedRule]
      cases hport : attached.port? with
      | none =>
          have hrefused : Reaches (fun (_ : Unit) _ => False)
              (throw (.invalidEndpointAllocators attached.id attached.resources.allocators))
              (history ++ describing) := .throw _
          exact hrefused.bind fun _ _ hnever => hnever.elim
      | some allocator =>
          apply (deleteGeneratedRule_reaches allocator.generatedRule 0 ruleLookups _).bind
          intro _ closing hclosed
          exact .pure ⟨_, .deleted hport rfl, hattached.trans hclosed⟩

/-- An endpoint that is created has all the milestones before the first rule behind it. -/
theorem create_reaches (settings : Settings) (container : String) (request : Request) :
    Reaches (fun attached after => ∃ passed,
        Milestones settings container request attached .forwarding passed ∧ passed.Sublist after)
      (create settings container) [] := by
  rw [create_eq]
  have hlookup : Reaches (fun _ _ => True)
      (host (.call (.networkByName settings.networkName)) : Operation Network) [] :=
    .host (Plan.heeds_call (.networkByName settings.networkName) trivial fun _ _ _ => trivial)
  apply hlookup.bind
  intro network looking _
  apply (createRetrying_reaches (descriptor settings container network.id) (createAttempts - 1)
    _).bind
  intro created creating hcreated
  refine Heeds.orUndo ((attach_reaches settings container created _).imp ?_) fun _ => ?_
  · rintro attached attaching ⟨closing, hclosing, hadds⟩
    exact ⟨_, .joined rfl hclosing, (hcreated.trans hadds).behind.sublist⟩
  · exact .host (Plan.heeds_call (.deleteEndpoint created) trivial fun _ _ _ => trivial)

end EndpointLifecycle

namespace Enforcement

theorem port_heeds {allowed : List Event → Call → Prop} (number : UInt32) (history : List Event) :
    Heeds allowed (fun port after => after = history ∧ port = number.toUInt16)
      (InboundRule.port number) history := by
  rw [InboundRule.port]
  split
  · exact .pure ⟨rfl, rfl⟩
  · exact .throw _

theorem permitHttp_reaches (container : String) (port : UInt32) (history : List Event) :
    Reaches (fun _ after => after = history ++ [.granted container port])
      (ContainerCommand.permitHttp container port) history := by
  have hexec : Reaches (fun ending after => after = history ++
        [⟨.exec container (ContainerCommand.httpPermission port) ContainerCommand.defaultTimeout,
          .ok ending⟩])
      (host (.call (.exec container (ContainerCommand.httpPermission port)
        ContainerCommand.defaultTimeout))) history := by
    refine .host (Plan.heeds_call (.exec container (ContainerCommand.httpPermission port)
      ContainerCommand.defaultTimeout) trivial ?_)
    rintro _ ending rfl
    rfl
  apply hexec.bind
  intro ending more hended
  cases ending with
  | timedOut => exact .throw _
  | exited code =>
      dsimp only
      split
      · exact .throw _
      · rename_i hzero
        rw [hended, not_not.mp hzero]
        exact .pure rfl

theorem reserveHostPort_reaches (container : String) (rule : InboundRule) (history : List Event) :
    Reaches (fun hostPort after => after = history ++
        [⟨.allocatePort container rule.hostPort.toUInt16, .ok hostPort⟩])
      (rule.reserveHostPort container) history := by
  apply (port_heeds rule.hostPort history).bind
  rintro requested more ⟨hmore, rfl⟩
  rw [hmore]
  refine .pool (Plan.heeds_call (.allocatePort container rule.hostPort.toUInt16) trivial ?_)
  rintro _ hostPort rfl
  rfl

theorem forward_reaches (enforcement : Enforcement) (container : String) (rule : InboundRule)
    (address : Address) (history : List Event) :
    Reaches (fun _ after => ∃ calls, Forwarded container address rule enforcement calls ∧
        after = history ++ calls)
      (enforcement.forward container rule address) history := by
  cases enforcement with
  | policyEngine =>
      apply (port_heeds rule.containerPort history).bind
      rintro containerPort more ⟨hmore, rfl⟩
      rw [hmore]
      apply (reserveHostPort_reaches container rule history).bind
      intro hostPort reserving hreserved
      apply (permitHttp_reaches container rule.containerPort _).bind
      intro _ granting hgranted
      refine .pure ⟨_, .engine hostPort, ?_⟩
      rw [hgranted, hreserved, List.append_assoc, List.singleton_append]
  | firewall =>
      apply (port_heeds rule.containerPort history).bind
      rintro containerPort more ⟨hmore, rfl⟩
      rw [hmore]
      apply (reserveHostPort_reaches container rule history).bind
      intro hostPort reserving hreserved
      have hcreate : Reaches (fun _ after => after = history ++ reserving ++
            [⟨.createRule (Firewall.inboundRule container address rule.containerPort.toUInt16),
              .ok ()⟩])
          (host (.call (.createRule
            (Firewall.inboundRule container address rule.containerPort.toUInt16))))
          (history ++ reserving) := by
        refine .host (Plan.heeds_call (.createRule _) trivial ?_)
        rintro _ created rfl
        rfl
      apply hcreate.bind
      intro _ creating hcreated
      apply (permitHttp_reaches container rule.containerPort _).bind
      intro _ granting hgranted
      refine .pure ⟨_, .firewall hostPort, ?_⟩
      rw [hgranted, hcreated, hreserved, List.append_assoc, List.append_assoc,
        List.singleton_append, List.singleton_append]

theorem permit_reaches (enforcement : Enforcement) (container : String) (rule : OutboundRule)
    (address : Address) (history : List Event) :
    Reaches (fun _ after => ∃ calls, Permitted container address rule enforcement calls ∧
        after = history ++ calls)
      (enforcement.permit container rule address) history := by
  cases enforcement with
  | policyEngine =>
      apply Heeds.ofExcept
      intro permitted hpermitted
      cases hentry : PolicyEngine.outboundEntry rule with
      | error failure =>
          rw [hentry] at hpermitted
          cases hpermitted
      | ok entry => exact ⟨[], .engine hentry, (List.append_nil _).symm⟩
  | firewall =>
      have htranslate : Reaches (fun created after => after = history ∧
            Firewall.outboundRule container rule address = .ok created)
          (Operation.ofExcept (Firewall.outboundRule container rule address)) history :=
        .ofExcept fun _ hcreated => ⟨rfl, hcreated⟩
      apply htranslate.bind
      rintro translated more ⟨hmore, htranslated⟩
      rw [hmore]
      have hcreate : Reaches (fun _ after => after = history ++ [⟨.createRule translated, .ok ()⟩])
          (host (.call (.createRule translated))) history := by
        refine .host (Plan.heeds_call (.createRule translated) trivial ?_)
        rintro _ created rfl
        rfl
      apply hcreate.bind
      intro _ creating hcreated
      exact .pure ⟨_, .firewall htranslated, hcreated⟩

end Enforcement

end ContainerNetwork
