import ContainerNetwork.Host.Endpoint
import ContainerNetwork.Host.Network
import ContainerNetwork.Proofs.Json.Kept
import ContainerNetwork.Proofs.PortPool.Content
import ContainerNetwork.Proofs.Wire.Requests

/-!
# What the host stores is read back

Networks, endpoints and the policies of endpoints.  A policy shares its object with its type, so
that it is kept as a whole, its type is taken out and what is left is read as the record of that
type.
-/

namespace ContainerNetwork

open Record (Spells)

/-! ## Networks -/

instance : LawfulWire Subnet := by
  refine .ofRecord (fun _ => rfl) (fun _ => rfl) (by decide) (fun subnet => ?_) fun subnet => ?_
  · exact (Spells.member "AddressPrefix" subnet.addressPrefix).and "GatewayAddress" subnet.gateway
  · simp [Record.required_eq, Record.optional_eq, List.lookup_append]

instance : LawfulWire Network := by
  refine .ofRecord (fun _ => rfl) (fun _ => rfl) (by decide) (fun network => ?_) fun network => ?_
  · exact ((((Spells.member "Id" network.id).and
      "Name" network.name).and
      "Type" network.kind).and
      "Subnets" network.subnets).append
      (.memberUnless network.dnsServers.isEmpty "DNSServerList" network.dnsServers)
  · simp [Record.required_eq, Record.optional_eq, List.lookup_append]

/-! ## Policies -/

theorem PortForward.spells (forward : PortForward) : Spells fields forward.members :=
  ((Spells.member "Protocol" forward.protocol).and
    "InternalPort" forward.internalPort).and
    "ExternalPort" forward.externalPort

theorem PortForward.ofRecord?_members (forward : PortForward) :
    ofRecord? (fun field => forward.members.lookup field) = some forward := by
  simp [ofRecord?, members, Record.required_eq, List.lookup_append]

instance : LawfulWire PortForward :=
  .ofRecord (fun _ => rfl) (fun _ => rfl) (by decide) PortForward.spells
    PortForward.ofRecord?_members

theorem BandwidthLimit.spells (limit : BandwidthLimit) : Spells fields limit.members :=
  Spells.member "MaximumOutgoingBandwidthInBytes" limit.bytesPerSecond

theorem BandwidthLimit.ofRecord?_members (limit : BandwidthLimit) :
    ofRecord? (fun field => limit.members.lookup field) = some limit := by
  simp [ofRecord?, members, Record.required_eq]

instance : LawfulWire BandwidthLimit :=
  .ofRecord (fun _ => rfl) (fun _ => rfl) (by decide) BandwidthLimit.spells
    BandwidthLimit.ofRecord?_members

theorem AclEntry.spells (entry : AclEntry) : Spells fields entry.members :=
  (((((((Spells.member "Action" entry.action.name).and
    "Direction" entry.direction.name).and
    "Protocol" entry.protocol).append
    (.memberUnless _ "LocalAddresses" entry.localAddresses)).append
    (.memberUnless _ "LocalPort" entry.localPort)).append
    (.memberUnless _ "RemoteAddresses" entry.remoteAddresses)).append
    (.memberUnless _ "RemotePort" entry.remotePort)).append
    (.ofOption AclSite.name "RuleType" entry.site)

theorem AclEntry.ofRecord?_members (payload : Json.Payload) (entry : AclEntry) :
    ofRecord? payload (fun field => entry.members.lookup field) = some entry := by
  have haction := bind_ofName? Verdict.ofName?_name payload entry.action
  have hdirection := bind_ofName? Direction.ofName?_name payload entry.direction
  have hnull (site : AclSite) : toJson site.name ≠ .null := nofun
  have hsite : entry.site.elim (some none)
      ((Json.nullable? fun json => (json.name? payload).bind AclSite.ofName?) ∘
        fun site => toJson site.name) = some entry.site :=
    Record.elim_nullable? hnull (bind_ofName? AclSite.ofName?_name payload) entry.site
  simp [ofRecord?, members, Record.required_eq, Record.optional_eq, Record.optionalBy_eq,
    List.lookup_append, haction, hdirection, hsite]

instance : LawfulWire AclEntry :=
  .ofRecord (fun _ => rfl) (fun _ => rfl) (by decide) AclEntry.spells
    (AclEntry.ofRecord?_members .null)

namespace Policy

theorem flat_members (policy : Policy) : ∀ member ∈ policy.members, member.2.Flat := by
  have htext (name text : String) : ∀ member ∈ Record.member name text, member.2.Flat :=
    Record.forall_mem_member (Json.flat_toJson_text text) name
  have hport (name : String) (port : UInt16) : ∀ member ∈ Record.member name port, member.2.Flat :=
    Record.forall_mem_member (Json.flat_toJson_uint16 port) name
  cases policy with
  | nat forward =>
      simp only [members, PortForward.members, List.forall_mem_append]
      exact ⟨⟨htext _ _, hport _ _⟩, hport _ _⟩
  | acl entry =>
      have hshown (absent : Bool) (name text : String) :
          ∀ member ∈ Record.memberUnless absent name text, member.2.Flat :=
        Record.forall_mem_memberUnless (Json.flat_toJson_text text) absent name
      have hsite := Record.forall_mem_ofOption
        (fun site : AclSite => Json.flat_toJson_text site.name) "RuleType" entry.site
      simp only [members, AclEntry.members, List.forall_mem_append]
      exact ⟨⟨⟨⟨⟨⟨⟨htext _ _, htext _ _⟩, hport _ _⟩, hshown _ _ _⟩, hshown _ _ _⟩, hshown _ _ _⟩,
        hshown _ _ _⟩, hsite⟩
  | qos limit => exact Record.forall_mem_member (Json.flat_toJson_uint64 limit.bytesPerSecond) _

/-- No record of a policy has a field of its own by the name of the type. -/
theorem name_ne_type (policy : Policy) : ∀ member ∈ policy.members, member.1 ≠ "Type" := by
  intro member hmember hname
  have hfield {fields : List String} (hspells : Spells fields policy.members) : "Type" ∈ fields :=
    hname ▸ hspells.names.subset (List.mem_map_of_mem hmember)
  cases policy with
  | nat forward => exact absurd (hfield forward.spells) (by decide)
  | acl entry => exact absurd (hfield entry.spells) (by decide)
  | qos limit => exact absurd (hfield limit.spells) (by decide)

/-- The type of a policy stands apart from its other members. -/
theorem untag?_toJson (policy : Policy) :
    untag? (toJson policy) = some (policy.tag, .ofMembers policy.members) := by
  let written := policy.members.map fun member => (some member.1, member.2)
  have hothers : ∀ member ∈ written, decide (member.1 = some "Type") = false := by
    intro member hmember
    obtain ⟨field, hfield, rfl⟩ := List.mem_map.mp hmember
    simpa using policy.name_ne_type field hfield
  have hnone : written.filter (fun member => member.1 = some "Type") = [] :=
    List.filter_eq_nil_iff.mpr fun member hmember => by
      simp [hothers member hmember]
  have hall : written.filter (fun member => !decide (member.1 = some "Type")) = written :=
    List.filter_eq_self.mpr fun member hmember => by
      simp [hothers member hmember]
  change untag? (.object ((some "Type", toJson policy.tag) :: written)) = _
  simp only [untag?, List.partition_eq_filter_filter, List.filter_cons, Function.comp_def,
    decide_true, Bool.not_true, if_true, hnone, hall]
  rfl

theorem ofTagged?_members (policy : Policy) :
    ofTagged? policy.tag (.ofMembers policy.members) = some policy := by
  cases policy with
  | nat forward =>
      have hread := forward.spells.bind_ofJson? (by decide) forward.ofRecord?_members
      simp [ofTagged?, tag, members, hread]
  | acl entry =>
      have hread := entry.spells.bind_ofJson? (by decide) (entry.ofRecord?_members .nullOrEmpty)
      simp [ofTagged?, tag, members, hread]
  | qos limit =>
      have hread := limit.spells.bind_ofJson? (by decide) limit.ofRecord?_members
      simp [ofTagged?, tag, members, hread]

/-- A policy is read back wherever its containers leave it enough depth. -/
theorem ofJsonWithin?_toJson {outer : Nat} (houter : outer < maxDepth) (policy : Policy) :
    ofJsonWithin? outer (toJson policy) = some policy := by
  have hflat : ∀ member ∈ Record.member "Type" policy.tag ++ policy.members, member.2.Flat := by
    rw [List.forall_mem_append]
    exact ⟨Record.forall_mem_member (Json.flat_toJson_text policy.tag) "Type",
      policy.flat_members⟩
  rw [ofJsonWithin?, if_pos, untag?_toJson]
  · exact policy.ofTagged?_members
  · exact Json.canKeep_ofMembers hflat (Nat.sub_pos_of_lt houter)

theorem spells (policy : Policy) : ∃ fields,
    Spells fields (Record.member "Type" policy.tag ++ policy.members) := by
  have htag := Spells.member "Type" policy.tag
  cases policy with
  | nat forward => exact ⟨_, htag.append forward.spells⟩
  | acl entry => exact ⟨_, htag.append entry.spells⟩
  | qos limit => exact ⟨_, htag.append limit.spells⟩

instance : LawfulWire Policy where
  toJson_isPlain policy := by
    obtain ⟨fields, hspells⟩ := policy.spells
    exact hspells.isPlain
  ofJson?_toJson := ofJsonWithin?_toJson (by decide)

end Policy

/-! ## Endpoints -/

instance : LawfulWire Allocator := by
  refine .ofRecord (fun _ => rfl) (fun _ => rfl) (by decide) (fun allocator => ?_)
    fun allocator => ?_
  · exact ((Spells.member "Type" allocator.kind).and
      "CompartmentId" allocator.compartment).and
      "EndpointPortGuid" allocator.portGuid
  · simp [Record.optional_eq, List.lookup_append]

instance : LawfulWire Resources := by
  refine .ofRecord (fun _ => rfl) (fun _ => rfl) (by decide) (fun resources => ?_)
    fun resources => ?_
  · exact Spells.member "Allocators" resources.allocators
  · simp [Record.optional_eq]

instance : LawfulWire Endpoint := by
  have hnull (address : Address) : toJson address ≠ .null := nofun
  have haddress (endpoint : Endpoint) : endpoint.address.elim (some none)
      (Json.nullable? ofJson? ∘ toJson) = some endpoint.address :=
    Record.elim_nullable? hnull LawfulWire.ofJson?_toJson endpoint.address
  have hwritten (endpoint : Endpoint) (field : String) :
      ((endpoint.address.map fun address => Record.member "IPAddress" address).getD []).lookup
        field = if field = "IPAddress" then endpoint.address.map toJson else none :=
    Record.lookup_ofOption id field "IPAddress" endpoint.address
  have hpolicies (endpoint : Endpoint) :
      Json.list? (Policy.ofJsonWithin? Endpoint.policyDepth) (toJson endpoint.policies) =
        some endpoint.policies :=
    mapM_map toJson (Policy.ofJsonWithin?_toJson (by decide)) endpoint.policies
  refine .ofRecord (fun _ => rfl) (fun _ => rfl) (by decide) (fun endpoint => ?_) fun endpoint => ?_
  · exact ((((((Spells.member "Id" endpoint.id).and
      "Name" endpoint.name).and
      "VirtualNetwork" endpoint.networkId).append
      (.ofOption id "IPAddress" endpoint.address)).append
      (.memberUnless endpoint.dnsServers.isEmpty "DNSServerList" endpoint.dnsServers)).and
      "Policies" endpoint.policies).and
      "Resources" endpoint.resources
  · simp [Record.required_eq, Record.optional_eq, Record.optionalBy_eq, List.lookup_append,
      hwritten, haddress, hpolicies]

/-! ## Every record -/

/-- The text written for a value is read as the same value, whatever value of the type it is. -/
def RoundTrips (α : Type) [Wire α] : Prop := ∀ value : α, Wire.read? (Wire.text value) = some value

/-- Whatever is written for a caller, for the pool file, for the configuration or for the host is
read back: with any texts and numbers, and with lists and maps of any length. -/
theorem wire_round_trips :
    (RoundTrips InboundRule ∧ RoundTrips AddressRange ∧ RoundTrips PortRange ∧
      RoundTrips Protocol ∧ RoundTrips OutboundRule ∧ RoundTrips PortMapping) ∧
    (RoundTrips Request ∧ RoundTrips Properties ∧ RoundTrips Report ∧ RoundTrips Handle ∧
      RoundTrips PortPool ∧ RoundTrips Settings) ∧
    (RoundTrips Subnet ∧ RoundTrips Network ∧ RoundTrips Policy ∧ RoundTrips PortForward ∧
      RoundTrips AclEntry ∧ RoundTrips BandwidthLimit ∧ RoundTrips Allocator ∧
      RoundTrips Resources ∧ RoundTrips Endpoint) := by
  have hround {α : Type} [Wire α] [LawfulWire α] : RoundTrips α := LawfulWire.read?_text
  exact ⟨⟨hround, hround, hround, hround, hround, hround⟩,
    ⟨hround, hround, hround, hround, hround, hround⟩,
    ⟨hround, hround, hround, hround, hround, hround, hround, hround, hround⟩⟩

end ContainerNetwork
