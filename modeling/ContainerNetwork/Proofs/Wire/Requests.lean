import ContainerNetwork.Handle
import ContainerNetwork.Proofs.Address.Text
import ContainerNetwork.Proofs.Json.Members
import ContainerNetwork.Request
import ContainerNetwork.Settings

/-!
# Requests, reports and settings are read back

What a caller writes and is told, and what the configuration holds.  Each record is read back from
its written form, with whatever texts, numbers and lists it has.
-/

namespace ContainerNetwork

open Record (Spells)

/-- A value that is written as a name is read back from the name. -/
theorem bind_ofName? {α : Type} {name : α → String} {ofName? : String → Option α}
    (hname : ∀ value, ofName? (name value) = some value) (payload : Json.Payload) (value : α) :
    ((toJson (name value)).name? payload).bind ofName? = some value := hname value

/-! ## Rules -/

instance : LawfulWire Address where
  toJson_isPlain address := .text address.text
  ofJson?_toJson address := by
    change (some address.text).bind Address.ofText? = some address
    rw [Option.bind_some, Address.ofText?_text]

instance : LawfulWire AddressRange := by
  refine .ofRecord (fun _ => rfl) (fun _ => rfl) (by decide) (fun range => ?_) fun range => ?_
  · exact (Spells.member "start" range.first).and "end" range.last
  · simp [Record.required_eq, List.lookup_append]

instance : LawfulWire PortRange := by
  refine .ofRecord (fun _ => rfl) (fun _ => rfl) (by decide) (fun range => ?_) fun range => ?_
  · exact (Spells.member "start" range.first).and "end" range.last
  · simp [Record.optional_eq, List.lookup_append]

instance : LawfulWire InboundRule := by
  refine .ofRecord (fun _ => rfl) (fun _ => rfl) (by decide) (fun rule => ?_) fun rule => ?_
  · exact (Spells.member "host_port" rule.hostPort).and "container_port" rule.containerPort
  · simp [Record.optional_eq, List.lookup_append]

theorem Protocol.ofCode_code (protocol : Protocol) : ofCode protocol.code = protocol := by
  cases protocol with
  | unknown code unlisted => exact dif_pos unlisted
  | _ => rfl

instance : LawfulWire Protocol where
  toJson_isPlain protocol := LawfulWire.toJson_isPlain protocol.code
  ofJson?_toJson protocol := by
    change (ofJson? (toJson protocol.code)).map Protocol.ofCode = some protocol
    rw [LawfulWire.ofJson?_toJson, Option.map_some, Protocol.ofCode_code]

instance : LawfulWire OutboundRule := by
  refine .ofRecord (fun _ => rfl) (fun _ => rfl) (by decide) (fun rule => ?_) fun rule => ?_
  · exact ((Spells.member "protocol" rule.protocol).and
      "networks" rule.networks).and
      "ports" rule.ports
  · simp [Record.optional_eq, List.lookup_append]

instance : LawfulWire PortMapping := by
  refine .ofRecord (fun _ => rfl) (fun _ => rfl) (by decide) (fun mapping => ?_) fun mapping => ?_
  · exact (Spells.member "HostPort" mapping.hostPort).and "ContainerPort" mapping.containerPort
  · simp [Record.required_eq, List.lookup_append]

/-! ## Requests and reports -/

instance : LawfulWire Request := by
  refine .ofRecord (fun _ => rfl) (fun _ => rfl) (by decide) (fun request => ?_) fun request => ?_
  · exact (((Spells.member "Pid" request.pid).and "Properties" request.properties).and
      "netout_rules" request.outbound).and "netin" request.inbound
  · simp [Record.optional_eq, List.lookup_append]

instance : LawfulWire Properties := by
  refine .ofRecord (fun _ => rfl) (fun _ => rfl) (by decide) (fun properties => ?_)
    fun properties => ?_
  · exact ((Spells.member "garden.network.container-ip" properties.containerIp).and
      "garden.network.host-ip" properties.hostIp).and
        "garden.network.mapped-ports" properties.mappedPorts
  · simp [Record.required_eq, List.lookup_append]

instance : LawfulWire Report := by
  refine .ofRecord (fun _ => rfl) (fun _ => rfl) (by decide) (fun report => ?_) fun report => ?_
  · exact (Spells.member "properties" report.properties).append
      (.memberUnless report.dnsServers.isEmpty "dns_servers" report.dnsServers)
  · simp [Record.required_eq, Record.optional_eq, List.lookup_append]

/-! ## Handles and settings -/

instance : LawfulWire Handle where
  toJson_isPlain handle := .text handle.text
  ofJson?_toJson handle := dif_pos handle.valid

theorem Enforcement.ofName?_name (enforcement : Enforcement) :
    ofName? enforcement.name = some enforcement := by
  cases enforcement <;> rfl

instance : LawfulWire Enforcement where
  toJson_isPlain enforcement := .text enforcement.name
  ofJson?_toJson := bind_ofName? Enforcement.ofName?_name .null

instance : LawfulWire Settings := by
  refine .ofRecord (fun _ => rfl) (fun _ => rfl) (by decide) (fun settings => ?_) fun settings => ?_
  · exact ((((((((Spells.member "network_name" settings.networkName).and
      "subnet_range" settings.subnet).and
      "gateway_address" settings.gateway).and
      "dns_servers" settings.dnsServers).and
      "maximum_outgoing_bandwidth" settings.maximumOutgoingBandwidth).and
      "start_port" settings.startPort).and
      "total_ports" settings.totalPorts).and
      "enforcement" settings.enforcement).and
      "mtu" settings.mtu
  · simp [Record.optional_eq, List.lookup_append]

end ContainerNetwork
