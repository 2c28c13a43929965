import ContainerNetwork.Enforcement.Firewall
import ContainerNetwork.Proofs.Enforcement.Entries
import ContainerNetwork.Proofs.Plan
import ContainerNetwork.SimulatedHost

/-!
# Outbound rules under both enforcements

An outbound rule becomes an entry of the access control list or a rule of the host firewall.  Both
let the same traffic out, and the entry lets no address out that no network of the rule contains,
provided that not all networks are reversed.
-/

namespace ContainerNetwork

open Operation

variable {σ : Type} {respond : (call : Call) → σ → call.Answer × σ} {state : σ}
variable {rule : OutboundRule} {container : String} {address : Address}

namespace PolicyEngine

/-- The entry that an outbound rule becomes once the meaning of its protocol is known. -/
theorem permit_of_outbound {number : UInt16} {withPorts : Bool}
    (houtbound : rule.protocol.outbound = .ok (number, withPorts)) :
    (runOn respond (permit rule) state).1 = .ok (some
      { action := .allow
        direction := .outbound
        protocol := number
        remoteAddresses := remoteAddresses rule.networks
        remotePort := rule.remotePorts withPorts
        site := some .switch }) := by
  rw [permit, outboundEntry, houtbound]
  rfl

theorem permit_of_outbound_error {failure : Failure}
    (houtbound : rule.protocol.outbound = .error failure) :
    (runOn respond (permit rule) state).1 = .error failure := by
  rw [permit, outboundEntry, houtbound]
  rfl

end PolicyEngine

namespace Firewall

/-- A firewall that accepts rules is given the one that an outbound rule becomes. -/
theorem permit_of_outbound {number : UInt16} {withPorts : Bool}
    (haccepts : ∀ created, (respond (.createRule created) state).1 = .ok ())
    (houtbound : rule.protocol.outbound = .ok (number, withPorts)) :
    (runOn respond (permit container rule address) state).1 = .ok none ∧
      events respond (permit container rule address) state =
        [⟨.createRule { FirewallRule.allowing container .outbound number with
            localAddresses := address.text
            remoteAddresses := AddressRange.listText rule.networks
            remotePorts := rule.remotePorts withPorts }, .ok ()⟩] := by
  have hcreated : ∃ created, outboundRule container rule address = .ok created ∧
      created = { FirewallRule.allowing container .outbound number with
        localAddresses := address.text
        remoteAddresses := AddressRange.listText rule.networks
        remotePorts := rule.remotePorts withPorts } := by
    rw [outboundRule, houtbound]
    exact ⟨_, rfl, rfl⟩
  obtain ⟨created, hcreated, hrule⟩ := hcreated
  rw [← hrule]
  have hpermit : permit container rule address =
      host (.call (.createRule created)) >>= fun _ => pure none := by
    rw [permit, hcreated]
    rfl
  have hcreate : runOn respond (host (.call (.createRule created))) state =
      (.ok (), (respond (.createRule created) state).2) := by
    rw [runOn_host]
    exact Prod.ext (congrArg (Except.mapError Failure.host) (haccepts created)) rfl
  have hlog : events respond (host (.call (.createRule created))) state =
      [⟨.createRule created, .ok ()⟩] := by
    rw [events_host]
    exact congrArg (fun answer => [Event.mk (.createRule created) answer]) (haccepts created)
  rw [hpermit, runOn_bind, events_bind, hcreate, hlog]
  exact ⟨rfl, rfl⟩

theorem permit_of_outbound_error {failure : Failure}
    (houtbound : rule.protocol.outbound = .error failure) :
    (runOn respond (permit container rule address) state).1 = .error failure := by
  rw [permit, outboundRule, houtbound]
  rfl

end Firewall

/-! ## One meaning of both texts -/

theorem AddressRange.scope_eq_univ {networks : List AddressRange}
    (hnetworks : networks = [] ∨ all ∈ networks) : scope networks = Set.univ := by
  ext address
  constructor
  · exact fun _ => trivial
  · intro _
    rcases hnetworks with hnone | hall
    · exact .inl hnone
    · exact .inr ⟨all, hall, all_contains address⟩

theorem AddressRange.scope_eq_union {networks : List AddressRange}
    (hnetworks : ¬(networks = [] ∨ all ∈ networks)) :
    scope networks = {address | ∃ range ∈ networks, range.Contains address} := by
  ext address
  constructor
  · intro hscope
    apply hscope.resolve_left
    intro hnone
    exact hnetworks (.inl hnone)
  · exact .inr

/-- An entry and a firewall rule that let the traffic of an outbound rule out, and no other.  The
entry lists blocks with a comma and a blank between them, the firewall rule ranges with commas. -/
structure SameTraffic (rule : OutboundRule) (entry : AclEntry) (created : FirewallRule) : Prop where
  entry_allows : entry.action = .allow ∧ entry.direction = .outbound
  created_allows : created.action = .allow ∧ created.direction = .outbound
  number : rule.protocol.number? = some entry.protocol
  protocol : entry.protocol = created.protocol
  remotePorts : entry.remotePort = created.remotePorts
  portText : rule.HasPortText entry.remotePort
  everywhere : rule.networks = [] ∨ AddressRange.all ∈ rule.networks →
    namedRemotes? ", " Block.named? entry.remoteAddresses = some Set.univ ∧
      namedRemotes? "," AddressRange.named? created.remoteAddresses = some Set.univ
  union : ¬(rule.networks = [] ∨ AddressRange.all ∈ rule.networks) →
    namedRemotes? ", " Block.named? entry.remoteAddresses =
        some {address | ∃ range ∈ rule.networks, range.Contains address} ∧
      namedRemotes? "," AddressRange.named? created.remoteAddresses =
        some {address | ∃ range ∈ rule.networks, range.Contains address}
  never_all : "0.0.0.0/0".toList ∉ Pieces.cut ", " entry.remoteAddresses

/-- Both enforcements let the same traffic out, or refuse the rule for the same protocol. -/
theorem renderings_agree (hordered : ∀ range ∈ rule.networks, range.Ordered)
    (haccepts : ∀ created, (respond (.createRule created) state).1 = .ok ()) :
    (∃ code unlisted, rule.protocol = .unknown code unlisted ∧
      (runOn respond (PolicyEngine.permit rule) state).1 = .error (.invalidProtocol code) ∧
      (runOn respond (Firewall.permit container rule address) state).1 =
        .error (.invalidProtocol code)) ∨
    ∃ entry created, (runOn respond (PolicyEngine.permit rule) state).1 = .ok (some entry) ∧
      (runOn respond (Firewall.permit container rule address) state).1 = .ok none ∧
      events respond (Firewall.permit container rule address) state =
        [⟨.createRule created, .ok ()⟩] ∧
      SameTraffic rule entry created := by
  rcases rule.protocol.outbound_cases with
    ⟨code, unlisted, hprotocol, houtbound⟩ | ⟨number, withPorts, houtbound⟩
  · exact .inl ⟨code, unlisted, hprotocol, PolicyEngine.permit_of_outbound_error houtbound,
      Firewall.permit_of_outbound_error houtbound⟩
  · obtain ⟨hresult, hevents⟩ := Firewall.permit_of_outbound haccepts houtbound
    refine .inr ⟨_, _, PolicyEngine.permit_of_outbound houtbound, hresult, hevents, ?_⟩
    have hblocks : namedRemotes? ", " Block.named? (PolicyEngine.remoteAddresses rule.networks) =
        some (AddressRange.scope rule.networks) := by
      apply PolicyEngine.namedRemotes?_remoteAddresses
      cases hnetworks : rule.networks with
      | nil => exact .inl rfl
      | cons range rest =>
          rw [hnetworks] at hordered
          exact .inr ⟨range, List.mem_cons_self, hordered range List.mem_cons_self⟩
    have hranges := AddressRange.namedRemotes?_listText rule.networks
    refine ⟨⟨rfl, rfl⟩, ⟨rfl, rfl⟩, Protocol.number?_of_outbound houtbound, rfl, rfl,
      OutboundRule.hasPortText_remotePorts houtbound, ?_, ?_, ?_⟩
    · intro hnetworks
      rw [AddressRange.scope_eq_univ hnetworks] at hblocks hranges
      exact ⟨hblocks, hranges⟩
    · intro hnetworks
      rw [AddressRange.scope_eq_union hnetworks] at hblocks hranges
      exact ⟨hblocks, hranges⟩
    · exact PolicyEngine.all_not_mem_remoteAddresses rule.networks

/-- A host without faults accepts rules, here one for two networks and two ranges of ports. -/
theorem renderings_agree_of_two_networks :
    let rule : OutboundRule :=
      { protocol := .tcp
        networks := [⟨.ofOctets 10 0 0 1, .ofOctets 10 0 0 6⟩, .single (.ofOctets 8 8 8 8)]
        ports := [.single 80, ⟨443, 450⟩] }
    let respond := SimulatedHost.respond ⟨61000, 10⟩
    let address : Address := .ofOctets 172 30 0 2
    (∀ range ∈ rule.networks, range.Ordered) ∧
      (∀ created, (respond (.createRule created) {}).1 = .ok ()) ∧
      ∃ entry created, (runOn respond (PolicyEngine.permit rule) {}).1 = .ok (some entry) ∧
        events respond (Firewall.permit "container" rule address) {} =
          [⟨.createRule created, .ok ()⟩] ∧
        SameTraffic rule entry created := by
  intro rule respond address
  have hordered : ∀ range ∈ rule.networks, range.Ordered := by decide
  have haccepts (created : FirewallRule) : (respond (.createRule created) {}).1 = .ok () := rfl
  refine ⟨hordered, haccepts, ?_⟩
  rcases renderings_agree hordered haccepts with
    ⟨code, unlisted, hprotocol, _⟩ | ⟨entry, created, hentry, _, hevents, hsame⟩
  · cases hprotocol
  · exact ⟨entry, created, hentry, hevents, hsame⟩

/-! ## Reversed networks -/

/-- An entry confines its traffic to the networks of the rule if one of them is not reversed, and
only then. -/
theorem permitted_remotes_confined_iff :
    (∃ code unlisted, rule.protocol = .unknown code unlisted ∧
      (runOn respond (PolicyEngine.permit rule) state).1 = .error (.invalidProtocol code)) ∨
    ∃ entry addresses, (runOn respond (PolicyEngine.permit rule) state).1 = .ok (some entry) ∧
      namedRemotes? ", " Block.named? entry.remoteAddresses = some addresses ∧
      ((∀ address ∈ addresses, ∃ range ∈ rule.networks, range.Contains address) ↔
        ∃ range ∈ rule.networks, range.Ordered) := by
  rcases rule.protocol.outbound_cases with
    ⟨code, unlisted, hprotocol, houtbound⟩ | ⟨number, withPorts, houtbound⟩
  · exact .inl ⟨code, unlisted, hprotocol, PolicyEngine.permit_of_outbound_error houtbound⟩
  · obtain ⟨addresses, hnamed, hconfined⟩ := PolicyEngine.confined_iff rule.networks
    exact .inr ⟨_, addresses, PolicyEngine.permit_of_outbound houtbound, hnamed, hconfined⟩

/-- A rule whose only network is reversed can be read, and its entry lets all addresses out. -/
theorem permitted_remotes_of_reversed :
    let text := "\x7b\"networks\":[\x7b\"start\":\"10.0.0.2\",\"end\":\"10.0.0.1\"\x7d]\x7d"
    let respond := SimulatedHost.respond ⟨61000, 10⟩
    ∃ rule entry, (Wire.read? text : Option OutboundRule) = some rule ∧ rule.networks ≠ [] ∧
      (runOn respond (PolicyEngine.permit rule) {}).1 = .ok (some entry) ∧
      namedRemotes? ", " Block.named? entry.remoteAddresses = some Set.univ ∧
      ∀ range ∈ rule.networks, ¬range.Contains (.ofOctets 8 8 8 8) := by
  intro text respond
  let rule : OutboundRule := { networks := [⟨.ofOctets 10 0 0 2, .ofOctets 10 0 0 1⟩] }
  refine ⟨rule, _, by decide +kernel, by decide, PolicyEngine.permit_of_outbound rfl, ?_, ?_⟩
  · rw [PolicyEngine.remoteAddresses_of_reversed (by decide)]
    rfl
  · decide

end ContainerNetwork
