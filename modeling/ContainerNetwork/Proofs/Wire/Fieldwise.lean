import ContainerNetwork.Proofs.Json.Fields
import ContainerNetwork.Proofs.PortPool.Content
import ContainerNetwork.Request
import ContainerNetwork.Settings

/-!
# Requests, settings and pools are read field by field

The records that come from outside, with their fields and what the absence of a field stands for.
An older file and a newer request are thereby read by what they have in common with the present
records: fields may be left out, stand in any order and stand beside others.  The properties of a
request and the ports of a pool are maps, in which every member counts.
-/

namespace ContainerNetwork

/-! ## Values without records -/

instance : Shaped UInt8 := .whole _

instance : Shaped UInt16 := .whole _

instance : Shaped UInt32 := .whole _

instance : Shaped UInt64 := .whole _

instance : Shaped String := .whole _

instance : Shaped Address := .whole _

instance : Shaped Protocol := .whole _

instance : Shaped Enforcement := .whole _

instance {α : Type} [Wire α] : Shaped (SortedMap String α) := .whole _

/-! ## Records -/

namespace InboundRule

def knownFields : List (RecordField InboundRule) :=
  [⟨"host_port", some 0, hostPort⟩, ⟨"container_port", some 0, containerPort⟩]

theorem readsFields : ReadsFields knownFields id := by
  refine .ofRecord (fun _ => rfl) (by decide) (fun given rule => ?_) fun given hgiven => ?_
  · cases rule
    simp [knownFields, RecordField.read?, Record.optional_eq, Option.bind_eq_some_iff]
  · simp only [knownFields, List.forall_mem_cons, Option.isSome_iff_exists] at hgiven
    obtain ⟨⟨hostPort, hhost⟩, ⟨containerPort, hcontainer⟩, -⟩ := hgiven
    exact ⟨{ hostPort, containerPort }, by simp [knownFields, hhost, hcontainer]⟩

instance : Shaped InboundRule := ⟨.ofFields knownFields, readsFields.readAlike⟩

end InboundRule

namespace AddressRange

def knownFields : List (RecordField AddressRange) := [⟨"start", none, first⟩, ⟨"end", none, last⟩]

theorem readsFields : ReadsFields knownFields id := by
  refine .ofRecord (fun _ => rfl) (by decide) (fun given range => ?_) fun given hgiven => ?_
  · cases range
    simp [knownFields, RecordField.read?, Record.required_eq_elim, Option.bind_eq_some_iff]
  · simp only [knownFields, List.forall_mem_cons, Option.isSome_iff_exists] at hgiven
    obtain ⟨⟨first, hfirst⟩, ⟨last, hlast⟩, -⟩ := hgiven
    exact ⟨{ first, last }, by simp [knownFields, hfirst, hlast]⟩

instance : Shaped AddressRange := ⟨.ofFields knownFields, readsFields.readAlike⟩

end AddressRange

namespace PortRange

def knownFields : List (RecordField PortRange) :=
  [⟨"start", some 0, first⟩, ⟨"end", some 0, last⟩]

theorem readsFields : ReadsFields knownFields id := by
  refine .ofRecord (fun _ => rfl) (by decide) (fun given range => ?_) fun given hgiven => ?_
  · cases range
    simp [knownFields, RecordField.read?, Record.optional_eq, Option.bind_eq_some_iff]
  · simp only [knownFields, List.forall_mem_cons, Option.isSome_iff_exists] at hgiven
    obtain ⟨⟨first, hfirst⟩, ⟨last, hlast⟩, -⟩ := hgiven
    exact ⟨{ first, last }, by simp [knownFields, hfirst, hlast]⟩

instance : Shaped PortRange := ⟨.ofFields knownFields, readsFields.readAlike⟩

end PortRange

namespace OutboundRule

def knownFields : List (RecordField OutboundRule) :=
  [⟨"protocol", some .all, protocol⟩, ⟨"networks", some [], networks⟩, ⟨"ports", some [], ports⟩]

theorem readsFields : ReadsFields knownFields id := by
  refine .ofRecord (fun _ => rfl) (by decide) (fun given rule => ?_) fun given hgiven => ?_
  · cases rule
    simp [knownFields, RecordField.read?, Record.optional_eq, Option.bind_eq_some_iff]
  · simp only [knownFields, List.forall_mem_cons, Option.isSome_iff_exists] at hgiven
    obtain ⟨⟨protocol, hprotocol⟩, ⟨networks, hnetworks⟩, ⟨ports, hports⟩, -⟩ := hgiven
    exact ⟨{ protocol, networks, ports }, by simp [knownFields, hprotocol, hnetworks, hports]⟩

instance : Shaped OutboundRule := ⟨.ofFields knownFields, readsFields.readAlike⟩

end OutboundRule

namespace Request

def knownFields : List (RecordField Request) :=
  [⟨"Pid", some 0, pid⟩, ⟨"Properties", some .empty, properties⟩,
    ⟨"netout_rules", some [], outbound⟩, ⟨"netin", some [], inbound⟩]

theorem readsFields : ReadsFields knownFields id := by
  refine .ofRecord (fun _ => rfl) (by decide) (fun given request => ?_) fun given hgiven => ?_
  · cases request
    simp [knownFields, RecordField.read?, Record.optional_eq, Option.bind_eq_some_iff]
  · simp only [knownFields, List.forall_mem_cons, Option.isSome_iff_exists] at hgiven
    obtain ⟨⟨pid, hpid⟩, ⟨properties, hproperties⟩, ⟨outbound, houtbound⟩, ⟨inbound, hinbound⟩,
      -⟩ := hgiven
    exact ⟨{ pid, properties, outbound, inbound },
      by simp [knownFields, hpid, hproperties, houtbound, hinbound]⟩

instance : Shaped Request := ⟨.ofFields knownFields, readsFields.readAlike⟩

/-- The rules of a request are records of their own; its properties are read as a whole. -/
example : Shaped.shape Request =
    .record [("Pid", .whole), ("Properties", .whole),
      ("netout_rules", .list (Shaped.shape OutboundRule)),
      ("netin", .list (Shaped.shape InboundRule))] := rfl

end Request

namespace Settings

def knownFields : List (RecordField Settings) :=
  [⟨"network_name", some "sluice-nat", networkName⟩,
    ⟨"subnet_range", some "172.30.0.0/22", subnet⟩,
    ⟨"gateway_address", some "172.30.0.1", gateway⟩,
    ⟨"dns_servers", some [], dnsServers⟩,
    ⟨"maximum_outgoing_bandwidth", some 0, maximumOutgoingBandwidth⟩,
    ⟨"start_port", some 40000, startPort⟩,
    ⟨"total_ports", some 5000, totalPorts⟩,
    ⟨"enforcement", some .firewall, enforcement⟩,
    ⟨"mtu", some 0, mtu⟩]

theorem readsFields : ReadsFields knownFields id := by
  refine .ofRecord (fun _ => rfl) (by decide) (fun given settings => ?_) fun given hgiven => ?_
  · cases settings
    simp [knownFields, RecordField.read?, Record.optional_eq, Option.bind_eq_some_iff]
  · simp only [knownFields, List.forall_mem_cons, Option.isSome_iff_exists] at hgiven
    obtain ⟨⟨networkName, hname⟩, ⟨subnet, hsubnet⟩, ⟨gateway, hgateway⟩, ⟨dnsServers, hdns⟩,
      ⟨maximumOutgoingBandwidth, hbandwidth⟩, ⟨startPort, hstart⟩, ⟨totalPorts, htotal⟩,
      ⟨enforcement, henforcement⟩, ⟨mtu, hmtu⟩, -⟩ := hgiven
    refine ⟨⟨networkName, subnet, gateway, dnsServers, maximumOutgoingBandwidth, startPort,
      totalPorts, enforcement, mtu⟩, ?_⟩
    simp [knownFields, hname, hsubnet, hgateway, hdns, hbandwidth, hstart, htotal, henforcement,
      hmtu]

instance : Shaped Settings := ⟨.ofFields knownFields, readsFields.readAlike⟩

end Settings

namespace PortPool

/-- A pool file gives the ports of each handle. -/
def knownFields : List (RecordField (SortedMap String (List UInt16))) :=
  [⟨"acquired_ports", some .empty, id⟩]

theorem readsFields : ReadsFields knownFields ofGroups := by
  refine .ofRecord (fun _ => rfl) (by decide) (fun given pool => ?_) fun given hgiven => ?_
  · simp [knownFields, RecordField.read?, Record.optional_eq, Option.bind_eq_some_iff, and_comm]
  · simp only [knownFields, List.forall_mem_cons, Option.isSome_iff_exists] at hgiven
    obtain ⟨⟨groups, hgroups⟩, -⟩ := hgiven
    exact ⟨groups, by simp [knownFields, hgroups]⟩

instance : Shaped PortPool := ⟨.ofFields knownFields, readsFields.readAlike⟩

end PortPool

/-! ## Texts -/

section Texts

variable {text : String} {json : Json}

theorem Request.ofInput?_of_parse? (hparse : Json.parse? text = some json) :
    ofInput? text = ofJson? json := by
  rw [ofInput?, Json.isBlank_eq_false hparse]
  exact Wire.read?_of_parse? hparse

theorem Settings.ofText_of_parse? (hparse : Json.parse? text = some json) :
    ofText text = (ofJson? json).elim (.error .config) .ok := by
  rw [ofText, Wire.read?_of_parse? hparse]

end Texts

/-- Requests, settings and pool files are read field by field.  An object is read exactly if every
field that it gives can be read by itself and every field that it leaves out has a default, and then
as what its fields are.  So texts whose values differ only in the arrangement of records, which the
properties of a request and the ports of a pool are not, are read alike. -/
theorem inputs_read_fieldwise :
    (ReadFieldwise Request.knownFields id ∧
      ReadFieldwise InboundRule.knownFields id ∧
      ReadFieldwise OutboundRule.knownFields id ∧
      ReadFieldwise AddressRange.knownFields id ∧
      ReadFieldwise PortRange.knownFields id ∧
      ReadFieldwise Settings.knownFields id ∧
      ReadFieldwise PortPool.knownFields PortPool.ofGroups) ∧
    (∀ text json, Json.parse? text = some json →
      Request.ofInput? text = ofJson? json ∧
      Settings.ofText text = (ofJson? json).elim (.error .config) .ok ∧
      PortPool.ofContent? text.toUTF8 = ofJson? json) ∧
    ∀ text other json arranged, Json.parse? text = some json → Json.parse? other = some arranged →
      (Rearranged (Shaped.shape Request) json arranged →
        Request.ofInput? text = Request.ofInput? other) ∧
      (Rearranged (Shaped.shape Settings) json arranged →
        Settings.ofText text = Settings.ofText other) ∧
      (Rearranged (Shaped.shape PortPool) json arranged →
        PortPool.ofContent? text.toUTF8 = PortPool.ofContent? other.toUTF8) := by
  refine ⟨?_, ?_, ?_⟩
  · exact ⟨Request.readsFields.readFieldwise, InboundRule.readsFields.readFieldwise,
      OutboundRule.readsFields.readFieldwise, AddressRange.readsFields.readFieldwise,
      PortRange.readsFields.readFieldwise, Settings.readsFields.readFieldwise,
      PortPool.readsFields.readFieldwise⟩
  · intro text json hparse
    exact ⟨Request.ofInput?_of_parse? hparse, Settings.ofText_of_parse? hparse,
      PortPool.ofContent?_of_parse? hparse⟩
  · intro text other json arranged htext hother
    refine ⟨fun hrequest => ?_, fun hsettings => ?_, fun hpool => ?_⟩
    · rw [Request.ofInput?_of_parse? htext, Request.ofInput?_of_parse? hother]
      exact Shaped.readAlike.rearranged hrequest
    · have hread : (ofJson? json : Option Settings) = ofJson? arranged :=
        Shaped.readAlike.rearranged hsettings
      rw [Settings.ofText_of_parse? htext, Settings.ofText_of_parse? hother, hread]
    · rw [PortPool.ofContent?_of_parse? htext, PortPool.ofContent?_of_parse? hother]
      exact Shaped.readAlike.rearranged hpool

/-- A newer request, with its members in another order and one that is not known yet, is read as
the older one; a range of ports may leave out where it starts. -/
theorem inputs_read_fieldwise_of_newer :
    let rule : Json := .ofMembers [("host_port", .ofNat 0), ("container_port", .ofNat 8080)]
    let turned : Json := .ofMembers [("container_port", .ofNat 8080), ("host_port", .ofNat 0)]
    let older : Json := .ofMembers [("Pid", .ofNat 7), ("netin", .array [rule])]
    let newer : Json :=
      .ofMembers [("trace", .array [.null]), ("netin", .array [turned]), ("Pid", .ofNat 7)]
    Rearranged (Shaped.shape Request) older newer ∧
      Request.ofInput? older.render = Request.ofInput? newer.render ∧
      Request.ofInput? older.render = some { pid := 7, inbound := [⟨0, 8080⟩] } ∧
      ofJson? (.ofMembers [("comment", .null), ("end", .ofNat 443)]) =
        some ({ last := 443 } : PortRange) := by
  intro rule turned older newer
  have hfield : ("netin", Shaped.shape (List InboundRule)) ∈
      Request.knownFields.map fun field => (field.name, Shaped.shape field.α) :=
    .tail _ (.tail _ (.tail _ (.head _)))
  have hrule : Rearranges (Shaped.shape InboundRule) rule turned := .order (.swap _ _ [])
  have hinside : Rearranges (Shaped.shape Request) older
      (.ofMembers [("Pid", .ofNat 7), ("netin", .array [turned])]) :=
    .field hfield (.item hrule [] []) [(some "Pid", .ofNat 7)] []
  have hordered : Rearranges (Shaped.shape Request)
      (.ofMembers [("Pid", .ofNat 7), ("netin", .array [turned])])
      (.ofMembers [("netin", .array [turned]), ("Pid", .ofNat 7)]) := .order (.swap _ _ [])
  have hnewer : Rearranges (Shaped.shape Request)
      (.ofMembers [("netin", .array [turned]), ("Pid", .ofNat 7)]) newer :=
    .foreign (by decide) (.array [.null]) _
  have hrearranged : Rearranged (Shaped.shape Request) older newer :=
    .trans _ _ _ (.rel _ _ hinside) (.trans _ _ _ (.rel _ _ hordered) (.rel _ _ hnewer))
  have hrules (first second : String) (left right : Nat) :
      (Json.array [.ofMembers [(first, .ofNat left), (second, .ofNat right)]]).IsPlain :=
    .array (by simpa using .object (by simpa using ⟨.natural left, .natural right⟩))
  have holder : Json.parse? older.render = some older :=
    Json.parse?_render (.object (by simpa using ⟨.natural 7, hrules _ _ 0 8080⟩))
  have hparsed : Json.parse? newer.render = some newer := by
    have htrace : (Json.array [.null]).IsPlain := .array (by simpa using .null)
    exact Json.parse?_render (.object (by simpa using ⟨htrace, hrules _ _ 8080 0, .natural 7⟩))
  obtain ⟨⟨_, _, _, _, hranges, _⟩, hread, halike⟩ := inputs_read_fieldwise
  refine ⟨hrearranged, (halike _ _ _ _ holder hparsed).1 hrearranged, ?_, ?_⟩
  · rw [(hread _ _ holder).1]
    rfl
  · refine ((hranges [("comment", .null), ("end", .ofNat 443)] (by decide)).2 _).mpr ⟨_, rfl, ?_⟩
    have hend : ofJson? (.ofNat 443) = some (443 : UInt16) := rfl
    simp only [PortRange.knownFields, List.forall_mem_cons]
    exact ⟨⟨by simp, by simp⟩, ⟨by simpa using hend, by simp⟩, List.forall_mem_nil _⟩

end ContainerNetwork
