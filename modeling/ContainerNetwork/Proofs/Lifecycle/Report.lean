import ContainerNetwork.Proofs.Host.SimulatedStore
import ContainerNetwork.Proofs.Lifecycle.DefaultDeny
import ContainerNetwork.Proofs.Lifecycle.HostPorts
import ContainerNetwork.Proofs.Wire.Requests

/-!
# What is reported and what is installed

A container that came up is told its ports, and its endpoint is updated once.  The ports in the
report, those that the pool has reserved, those that the update forwards and those that its entries
let in are the same ones, rule by rule.
-/

namespace ContainerNetwork

open Operation

variable {σ : Type} {place : FilePlace} {range : ManagedRange}
variable {respond : (call : Call) → σ → call.Answer × σ} {files : σ → FileTree} {sound : σ → Prop}
variable {state : σ} {settings : Settings} {enforcement : Enforcement} {container : String}

/-! ## Entries -/

/-- The entries that are added to an endpoint whose ports are forwarded so: none where the host
firewall enforces the rules; else one for each forwarded port and then one for each outbound rule,
in their order, or two that block all traffic where there is no rule at all.  Those two restrict
nothing but the direction: their address and port texts are empty. -/
inductive Entries (address : Address) (request : Request) (nat : List PortForward) :
    Enforcement → List AclEntry → Prop
  | firewall : Entries address request nat .firewall []
  | denied (hnoInbound : request.inbound = []) (hnoOutbound : request.outbound = []) :
      Entries address request nat .policyEngine
        [{ action := .block, direction := .outbound, protocol := 256 },
          { action := .block, direction := .inbound, protocol := 256 }]
  | allowed {inbound outbound : List AclEntry}
      (hsome : request.inbound ≠ [] ∨ request.outbound ≠ [])
      (hinbound : List.Forall₂ (fun forward entry => entry.LetsIn address forward.internalPort) nat
        inbound)
      (houtbound : List.Forall₂ (fun rule entry => entry.LetsOut rule) request.outbound outbound) :
      Entries address request nat .policyEngine (inbound ++ outbound)

section Entries

variable {address : Address} {inbound : List Inbound} {outbound : List (Option AclEntry)}

theorem filterMap_acl_of_policyEngine {rules : List InboundRule}
    (hinbound : List.Forall₂ (fun rule value => value.Realizes .policyEngine address rule) rules
      inbound) :
    List.Forall₂ (fun forward entry => entry.LetsIn address forward.internalPort)
      (inbound.map Inbound.nat) (inbound.filterMap Inbound.acl) := by
  induction hinbound with
  | nil => exact .nil
  | cons hvalue _ ih =>
      rw [List.filterMap_cons_some hvalue.acl, List.map_cons]
      exact .cons (PolicyEngine.letsIn_inboundEntry _ _) ih

theorem filterMap_acl_of_firewall {rules : List InboundRule}
    (hinbound : List.Forall₂ (fun rule value => value.Realizes .firewall address rule) rules
      inbound) :
    inbound.filterMap Inbound.acl = [] := by
  induction hinbound with
  | nil => rfl
  | cons hvalue _ ih => rw [List.filterMap_cons_none hvalue.acl, ih]

theorem permitAll_of_policyEngine {rules : List OutboundRule}
    (hengine : settings.enforcement = .policyEngine)
    (hpermit : (runOn respond
      (ContainerLifecycle.permitAll settings container address rules) state).1 = .ok outbound) :
    List.Forall₂ (fun rule entry => entry.LetsOut rule) rules (outbound.filterMap id) := by
  have hvalues := runOn_mapM_eq_ok hpermit
  clear hpermit
  induction hvalues with
  | nil => exact .nil
  | @cons rule value rest others hvalue _ ih =>
      obtain ⟨before, hrun⟩ := hvalue
      rw [hengine] at hrun
      have hentry : (PolicyEngine.outboundEntry rule).map some = .ok value := hrun
      cases hentry' : PolicyEngine.outboundEntry rule with
      | error failure =>
          rw [hentry'] at hentry
          cases hentry
      | ok entry =>
          rw [hentry'] at hentry
          cases hentry
          exact .cons (PolicyEngine.letsOut_of_outboundEntry hentry') ih

theorem permitAll_of_firewall {rules : List OutboundRule}
    (hfirewall : settings.enforcement = .firewall)
    (hpermit : (runOn respond
      (ContainerLifecycle.permitAll settings container address rules) state).1 = .ok outbound) :
    outbound.filterMap id = [] := by
  have hvalues := runOn_mapM_eq_ok hpermit
  clear hpermit
  induction hvalues with
  | nil => rfl
  | @cons rule value rest others hvalue _ ih =>
      obtain ⟨before, hrun⟩ := hvalue
      rw [hfirewall] at hrun
      obtain ⟨created, _, hrest⟩ := runOn_bind_eq_ok hrun
      rw [Enforcement.permit, Firewall.permit, hrest] at hrun
      obtain ⟨_, _, hrest⟩ := runOn_bind_eq_ok hrun
      rw [hrest] at hrun
      cases hrun
      exact ih

/-- The policies that are added to an endpoint forward the ports of its inbound rules and let in
and out what its rules allow. -/
theorem addedPolicies_entries {request : Request}
    (hinbound : List.Forall₂ (fun rule value => value.Realizes settings.enforcement address rule)
      request.inbound inbound)
    (hpermit : (runOn respond
      (ContainerLifecycle.permitAll settings container address request.outbound) state).1 =
        .ok outbound) :
    ∃ acl, Entries address request (inbound.map Inbound.nat) settings.enforcement acl ∧
      EndpointLifecycle.addedPolicies settings (inbound.map Inbound.nat)
        (inbound.filterMap Inbound.acl ++ outbound.filterMap id) =
        (inbound.map Inbound.nat).map .nat ++ acl.map .acl := by
  refine ⟨_, ?_, rfl⟩
  cases henforcement : settings.enforcement with
  | firewall =>
      rw [henforcement] at hinbound
      rw [filterMap_acl_of_firewall hinbound, permitAll_of_firewall henforcement hpermit]
      exact .firewall
  | policyEngine =>
      rw [henforcement] at hinbound
      have houtbound := permitAll_of_policyEngine henforcement hpermit
      have hforwards := filterMap_acl_of_policyEngine hinbound
      by_cases hnone : request.inbound = [] ∧ request.outbound = []
      · rw [hnone.1, List.forall₂_nil_left_iff] at hinbound
        rw [hnone.2, List.forall₂_nil_left_iff] at houtbound
        rw [hinbound, houtbound, if_pos ⟨rfl, rfl⟩]
        exact .denied hnone.1 hnone.2
      · rw [if_neg]
        · exact .allowed (not_and_or.mp hnone) hforwards houtbound
        · rintro ⟨hentries, _⟩
          obtain ⟨hnoEntry, hpermits⟩ := List.append_eq_nil_iff.mp hentries
          rw [hnoEntry, List.forall₂_nil_right_iff, List.map_eq_nil_iff] at hforwards
          rw [hforwards, List.forall₂_nil_right_iff] at hinbound
          rw [hpermits, List.forall₂_nil_right_iff] at houtbound
          exact hnone ⟨hinbound, houtbound⟩

end Entries

/-! ## The report and the update -/

/-- How the entry of a report answers to an inbound rule: it names the rule's container port, and
its host port or one that is reserved for the container. -/
structure PortMapping.Answers (place : FilePlace) (container : String) (files : FileTree)
    (rule : InboundRule) (mapping : PortMapping) : Prop where
  containerPort : mapping.containerPort = rule.containerPort
  named : rule.hostPort ≠ 0 → mapping.hostPort = rule.hostPort
  reserved : rule.hostPort = 0 → ∃ port : UInt16, mapping.hostPort = port.toUInt32 ∧
    PortPool.reservedFor? place files port = some container

/-- A forwarded port has the ports of the mapping that is reported for it. -/
structure PortForward.Matches (mapping : PortMapping) (forward : PortForward) : Prop where
  protocol : forward.protocol = "TCP"
  internal : forward.internalPort.toUInt32 = mapping.containerPort
  external : forward.externalPort.toUInt32 = mapping.hostPort

/-- What is reported of the ports of a container and what is added to the policies of its endpoint
agree with the rules of its request, one by one. -/
structure Accords (place : FilePlace) (settings : Settings) (container : String)
    (request : Request) (files : FileTree) (address : Address) (mappings : List PortMapping)
    (nat : List PortForward) (acl : List AclEntry) : Prop where
  mapped : List.Forall₂ (PortMapping.Answers place container files) request.inbound mappings
  distinct : (request.inbound.zip mappings).Pairwise fun first second =>
    first.1.hostPort = 0 → second.1.hostPort = 0 → first.2.hostPort ≠ second.2.hostPort
  forwarded : List.Forall₂ PortForward.Matches mappings nat
  entries : Entries address request nat settings.enforcement acl

section Accords

variable {before after last : FileTree} {address : Address} {rules : List InboundRule}
variable {inbound : List Inbound}

theorem answers_of_grants {rule : InboundRule} {value : Inbound}
    (hrealizes : value.Realizes enforcement address rule)
    (hgrants : PortPool.Grants place container rule before after value.nat.externalPort) :
    PortMapping.Answers place container after rule value.mapping where
  containerPort := by rw [hrealizes.mapping, InboundRule.mapping]
  named hport := by rw [hrealizes.mapping, InboundRule.mapping, hgrants.named hport]
  reserved hany :=
    ⟨value.nat.externalPort, by rw [hrealizes.mapping, InboundRule.mapping], hgrants.reserved hany⟩

theorem matches_of_realizes
    (hinbound : List.Forall₂ (fun rule value => value.Realizes enforcement address rule) rules
      inbound) :
    List.Forall₂ PortForward.Matches (inbound.map Inbound.mapping) (inbound.map Inbound.nat) := by
  induction hinbound with
  | nil => exact .nil
  | @cons rule value _ _ hvalue _ ih =>
      refine .cons ⟨hvalue.protocol, ?_, ?_⟩ ih
      · rw [hvalue.containerPort, hvalue.mapping, InboundRule.mapping]
      · rw [hvalue.mapping, InboundRule.mapping]

/-- Where the forwarded ports differ, so do the reported ones. -/
theorem distinct_of_realizes
    (hinbound : List.Forall₂ (fun rule value => value.Realizes enforcement address rule) rules
      inbound)
    (hdistinct : (rules.zip inbound).Pairwise fun first second => first.1.hostPort = 0 →
      second.1.hostPort = 0 → first.2.nat.externalPort ≠ second.2.nat.externalPort) :
    (rules.zip (inbound.map Inbound.mapping)).Pairwise fun first second =>
      first.1.hostPort = 0 → second.1.hostPort = 0 → first.2.hostPort ≠ second.2.hostPort := by
  have hmapped (pair : InboundRule × Inbound) (hpair : pair ∈ rules.zip inbound) :
      pair.2.mapping.hostPort = pair.2.nat.externalPort.toUInt32 := by
    have hrealizes := (List.forall₂_iff_zip.mp hinbound).2 hpair
    rw [hrealizes.mapping, InboundRule.mapping]
  rw [List.zip_map_right, List.pairwise_map]
  apply hdistinct.imp_of_mem
  intro first second hfirst hsecond hports hany hother hsame
  have hwide : first.2.nat.externalPort.toUInt32 = second.2.nat.externalPort.toUInt32 :=
    calc
      _ = first.2.mapping.hostPort := (hmapped first hfirst).symm
      _ = second.2.mapping.hostPort := hsame
      _ = second.2.nat.externalPort.toUInt32 := hmapped second hsecond
  exact hports hany hother (UInt16.toUInt32_inj.mp hwide)

end Accords

namespace ContainerLifecycle

/-- What is left to do once the ports are forwarded. -/
def settle (settings : Settings) (container : String) (request : Request) (endpoint : Endpoint)
    (address : Address) (inbound : List Inbound) : Operation Report := do
  let outbound ← permitAll settings container address request.outbound
  discard (EndpointLifecycle.applyPolicies settings endpoint (inbound.map Inbound.nat)
    (inbound.filterMap Inbound.acl ++ outbound.filterMap id))
  discard (EndpointLifecycle.setMtu settings container)
  return .of address (inbound.map Inbound.mapping) settings.dnsServers

variable {request : Request} {endpoint : Endpoint} {address : Address} {inbound : List Inbound}
variable {report : Report}

theorem install_eq (haddress : endpoint.address = some address) :
    install settings container request endpoint = (do
      let inbound ← forwardAll settings container address request.inbound
      settle settings container request endpoint address inbound) := by
  rw [install, haddress]
  rfl

theorem exists_address_of_install
    (hinstall : (runOn respond (install settings container request endpoint) state).1 =
      .ok report) : ∃ address, endpoint.address = some address := by
  rw [install] at hinstall
  split at hinstall
  case h_1 address haddress => exact ⟨address, haddress⟩
  case h_2 => cases hinstall

theorem permitAll_makes (settings : Settings) (container : String) (address : Address)
    (rules : List OutboundRule) :
    Makes (Call.Permits settings.enforcement container)
      (permitAll settings container address rules) :=
  .mapM fun rule => Enforcement.permit_makes settings.enforcement container rule address

theorem settle_makes (settings : Settings) (container : String) (request : Request)
    (endpoint : Endpoint) (address : Address) (inbound : List Inbound) :
    Makes Call.SparesPool (settle settings container request endpoint address inbound) := by
  apply ((permitAll_makes settings container address _).mono fun _ hpermits =>
    .of_kind hpermits.kind_mem (by decide)).bind
  intro outbound
  apply ((EndpointLifecycle.applyPolicies_makes settings endpoint _ _).mono
    fun _ hcommits => .of_kind hcommits.kind_mem (by decide)).discard.bind
  intro _
  apply ((EndpointLifecycle.setMtu_makes settings container).mono
    fun _ hadapts => .of_kind hadapts.kind_mem (by decide)).discard.bind
  intro _
  exact .pure _

/-- What is left to do updates the endpoint once and reports the ports that are forwarded. -/
theorem settle_updates
    (hsettle : (runOn respond (settle settings container request endpoint address inbound)
      state).1 = .ok report) :
    report = .of address (inbound.map Inbound.mapping) settings.dnsServers ∧
      ∃ outbound updated,
        (runOn respond (permitAll settings container address request.outbound) state).1 =
          .ok outbound ∧
        Event.ofKind .updateEndpoint
            (events respond (settle settings container request endpoint address inbound) state) =
          [⟨.updateEndpoint
            { endpoint with
              policies := endpoint.policies ++ EndpointLifecycle.addedPolicies settings
                (inbound.map Inbound.nat)
                (inbound.filterMap Inbound.acl ++ outbound.filterMap id) },
            .ok updated⟩] := by
  rw [settle] at hsettle ⊢
  obtain ⟨outbound, hpermit, hrest⟩ := runOn_bind_eq_ok hsettle
  rw [hrest] at hsettle
  obtain ⟨_, happly, hrest⟩ := runOn_bind_eq_ok hsettle
  rw [hrest] at hsettle
  obtain ⟨updated, hupdate⟩ := EndpointLifecycle.applyPolicies_updates happly
  obtain ⟨_, hmtu, hrest⟩ := runOn_bind_eq_ok hsettle
  rw [hrest] at hsettle
  cases hsettle
  have hpermits : Makes Call.CommitsNothing
      (permitAll settings container address request.outbound) :=
    (permitAll_makes settings container address _).mono fun _ hpermits =>
      .of_kind hpermits.kind_mem (by decide)
  have hadapts : Makes Call.CommitsNothing (EndpointLifecycle.setMtu settings container) :=
    (EndpointLifecycle.setMtu_makes settings container).mono fun _ hadapts =>
      .of_kind hadapts.kind_mem (by decide)
  refine ⟨rfl, outbound, updated, hpermit, ?_⟩
  rw [events_bind_of_ok hpermit, events_bind_of_ok happly, hupdate, Event.ofKind_append,
    Event.ofKind_append, hpermits.ofKind_updateEndpoint,
    (hadapts.discard.bind fun _ => .pure _).ofKind_updateEndpoint]
  rfl

/-- Putting rules in force: what is reported is what the endpoint is updated with. -/
theorem install_accords (hserves : ServesPool place range respond files sound)
    (hsound : sound state)
    (hinstall : (runOn respond (install settings container request endpoint) state).1 =
      .ok report) :
    ∃ address mappings nat acl updated, endpoint.address = some address ∧
      report.mappedPorts? = some mappings ∧
      Accords place settings container request
        (files (runOn respond (install settings container request endpoint) state).2)
        address mappings nat acl ∧
      Event.ofKind .updateEndpoint
          (events respond (install settings container request endpoint) state) =
        [⟨.updateEndpoint
          { endpoint with policies := endpoint.policies ++ (nat.map .nat ++ acl.map .acl) },
          .ok updated⟩] := by
  obtain ⟨address, haddress⟩ := exists_address_of_install hinstall
  rw [install_eq haddress] at hinstall ⊢
  obtain ⟨inbound, hforward, hrest⟩ := runOn_bind_eq_ok hinstall
  obtain ⟨hbetween, _, hgranted, hdistinct⟩ := hserves.forwardAll_grants hsound hforward
  have hrealized := hgranted.imp fun _ _ => And.left
  have hkept := ((hserves.spares (settle_makes settings container request endpoint address inbound)
    hbetween).2).keeps
  rw [hrest] at hinstall ⊢
  obtain ⟨hreport, outbound, updated, hpermit, hupdate⟩ := settle_updates hinstall
  obtain ⟨acl, hentries, hadded⟩ := addedPolicies_entries hrealized hpermit
  refine ⟨address, inbound.map Inbound.mapping, inbound.map Inbound.nat, acl, updated, haddress,
    ?_, ?_, ?_⟩
  · rw [hreport]
    exact LawfulWire.read?_text _
  · constructor
    case mapped =>
      rw [List.forall₂_map_right_iff]
      exact hgranted.imp fun _ _ hvalue =>
        answers_of_grants hvalue.1 (hvalue.2.widen .refl hkept)
    case distinct => exact distinct_of_realizes hrealized hdistinct
    case forwarded => exact matches_of_realizes hrealized
    case entries => exact hentries
  · rw [events_bind_of_ok hforward, Event.ofKind_append,
      (forwardAll_makes _ _ _ _).ofKind_updateEndpoint, List.nil_append, hupdate, hadded]

/-- A container that came up is told what was installed for it: its report and the one update of
its endpoint agree with its rules one by one, and the ports that were found for it are reserved. -/
theorem up_reports_installed {handle : Handle}
    (hserves : ServesPool place range respond files sound) (hsound : sound state)
    (hup : (runOn respond (up settings handle request) state).1 = .ok report) :
    ∃ attached address mappings nat acl updated,
      (∃ asked created,
        ⟨.createEndpoint asked, .ok created⟩ ∈ events respond (up settings handle request) state ∧
        ⟨.endpointById created.id, .ok attached⟩ ∈
          events respond (up settings handle request) state) ∧
      attached.address = some address ∧ report.mappedPorts? = some mappings ∧
      Accords place settings handle.text request
        (files (runOn respond (up settings handle request) state).2) address mappings nat acl ∧
      Event.ofKind .updateEndpoint (events respond (up settings handle request) state) =
        [⟨.updateEndpoint
          { attached with policies := attached.policies ++ (nat.map .nat ++ acl.map .acl) },
          .ok updated⟩] := by
  rw [up_eq] at hup ⊢
  split at hup
  case isTrue hmany => cases hup
  case isFalse hfew =>
  simp only [if_neg hfew]
  have hcreates : Makes Call.SparesPool (EndpointLifecycle.create settings handle.text) :=
    EndpointLifecycle.create_makes settings (fun _ => trivial) (fun _ _ => trivial)
      (fun _ _ hattaches => .of_kind hattaches.kind_mem (by decide)) fun _ => trivial
  obtain ⟨attached, hcreate, hrest⟩ := runOn_bind_eq_ok hup
  obtain ⟨asked, created, hcreated, hdescribed⟩ := EndpointLifecycle.create_joined hcreate
  rw [hrest] at hup ⊢
  rw [runOn_orUndo_of_ok hup]
  obtain ⟨hinstall, hevents⟩ := orUndo_of_ok hup
  obtain ⟨address, mappings, nat, acl, updated, haddress, hreport, haccords, hupdate⟩ :=
    install_accords hserves (hserves.spares hcreates hsound).1 hinstall
  rw [events_bind_of_ok hcreate]
  refine ⟨attached, address, mappings, nat, acl, updated,
    ⟨asked, created, List.mem_append_left _ hcreated, List.mem_append_left _ hdescribed⟩,
    haddress, hreport, haccords, ?_⟩
  rw [Event.ofKind_append, hevents, hupdate,
    (EndpointLifecycle.create_commitsNothing settings handle.text).ofKind_updateEndpoint]
  rfl

/-- One port of the pool and one that is named, both reported and both forwarded, and one outbound
rule: the endpoint is updated with two entries that let traffic in and one that lets it out. -/
theorem up_reports_installed_of_two_ports :
    let respond := SimulatedHost.respond ⟨61000, 10⟩
    let settings : Settings := { enforcement := .policyEngine }
    let resolver : OutboundRule :=
      { protocol := .udp, networks := [.single (.ofOctets 8 8 8 8)], ports := [.single 53] }
    let request : Request := { inbound := [⟨0, 8080⟩, ⟨9000, 9090⟩], outbound := [resolver] }
    let handle : Handle := ⟨"container", by decide⟩
    let run := runOn respond (up settings handle request) .ready
    ∃ report mappings, ∃ acl : List AclEntry, run.1 = .ok report ∧
      report.mappedPorts? = some mappings ∧
      List.Forall₂ (PortMapping.Answers SimulatedHost.poolPlace "container" run.2.files)
        request.inbound mappings ∧
      acl.map (fun entry => (entry.action, entry.direction, entry.protocol,
          entry.remoteAddresses, entry.remotePort)) =
        [(.allow, .inbound, 6, "", ""), (.allow, .inbound, 6, "", ""),
          (.allow, .outbound, 17, "8.8.8.8/32", "53-53")] ∧
      ∃ (attached updated : Endpoint) (nat : List PortForward),
        Event.ofKind .updateEndpoint (events respond (up settings handle request) .ready) =
          [⟨.updateEndpoint
            { attached with policies := attached.policies ++ (nat.map .nat ++ acl.map .acl) },
            .ok updated⟩] := by
  intro respond settings resolver request handle run
  have hserves : ServesPool SimulatedHost.poolPlace ⟨61000, 10⟩ respond SimulatedHost.files
      SimulatedHost.Sound := (SimulatedHost.faithful ⟨61000, 10⟩).servesPool
  have hok : Except.isOk run.1 := by decide +kernel
  obtain ⟨report, hup⟩ := isOk_iff.mp hok
  obtain ⟨attached, address, mappings, nat, acl, updated, _, _, hreport, haccords, hupdate⟩ :=
    up_reports_installed hserves SimulatedHost.ready_sound hup
  refine ⟨report, mappings, acl, hup, hreport, haccords.mapped, ?_, attached, updated, nat,
    hupdate⟩
  have hentries : Entries address request nat .policyEngine acl := haccords.entries
  have hforwarded : nat.length = 2 :=
    haccords.forwarded.length_eq.symm.trans haccords.mapped.length_eq.symm
  cases hentries with
  | denied hnoInbound => cases hnoInbound
  | allowed hsome hinbound houtbound =>
      obtain ⟨first, second, rfl⟩ := List.length_eq_two.mp hforwarded
      cases hinbound with
      | cons hfirst hrest =>
      cases hrest with
      | cons hsecond hrest =>
      cases hrest
      cases houtbound with
      | cons hresolver hrest =>
      cases hrest
      have hnumber := Option.some.inj hresolver.protocol
      have haddresses := hresolver.remoteAddresses
      have hports := hresolver.remotePort.ported (.inr rfl)
      simp only [List.cons_append, List.nil_append, List.map_cons, List.map_nil, hfirst.action,
        hfirst.direction, hfirst.protocol, hfirst.remoteAddresses, hfirst.remotePort,
        hsecond.action, hsecond.direction, hsecond.protocol, hsecond.remoteAddresses,
        hsecond.remotePort, hresolver.action, hresolver.direction, ← hnumber, haddresses, hports]
      decide +kernel

end ContainerLifecycle

end ContainerNetwork
