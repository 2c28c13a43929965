import ContainerNetwork.Rule
import ContainerNetwork.Text.Blank

/-!
# Requests and reports

What a caller asks for when a container's network is brought up, and what it is told afterwards.
-/

namespace ContainerNetwork

structure Request where
  /-- The first process of the container. -/
  pid : UInt32 := 0
  properties : SortedMap String String := .empty
  outbound : List OutboundRule := []
  inbound : List InboundRule := []
  deriving DecidableEq

namespace Request

instance : Wire Request where
  toJson request := .ofMembers <|
    Record.member "Pid" request.pid ++ Record.member "Properties" request.properties
      ++ Record.member "netout_rules" request.outbound ++ Record.member "netin" request.inbound
  ofJson? json := do
    let record ← Record.ofJson? ["Pid", "Properties", "netout_rules", "netin"] json
    return {
      pid := ← record.optional "Pid" 0
      properties := ← record.optional "Properties" .empty
      outbound := ← record.optional "netout_rules" []
      inbound := ← record.optional "netin" [] }

/-- The request that an input asks for; a blank input asks for nothing. -/
def ofInput? (input : String) : Option Request :=
  if Text.isBlank input then some {} else Wire.read? input

end Request

structure Properties where
  containerIp : String
  hostIp : String
  /-- The mapped ports as a JSON text. -/
  mappedPorts : String
  deriving DecidableEq

instance : Wire Properties where
  toJson properties := .ofMembers <|
    Record.member "garden.network.container-ip" properties.containerIp
      ++ Record.member "garden.network.host-ip" properties.hostIp
      ++ Record.member "garden.network.mapped-ports" properties.mappedPorts
  ofJson? json := do
    let record ← Record.ofJson?
      ["garden.network.container-ip", "garden.network.host-ip", "garden.network.mapped-ports"]
      json
    return {
      containerIp := ← record.required "garden.network.container-ip"
      hostIp := ← record.required "garden.network.host-ip"
      mappedPorts := ← record.required "garden.network.mapped-ports" }

structure Report where
  properties : Properties
  dnsServers : List String := []
  deriving DecidableEq

namespace Report

instance : Wire Report where
  toJson report := .ofMembers <|
    Record.member "properties" report.properties
      ++ Record.memberUnless report.dnsServers.isEmpty "dns_servers" report.dnsServers
  ofJson? json := do
    let record ← Record.ofJson? ["properties", "dns_servers"] json
    return {
      properties := ← record.required "properties"
      dnsServers := ← record.optional "dns_servers" [] }

/-- The mapped ports that a report names. -/
def mappedPorts? (report : Report) : Option (List PortMapping) :=
  Wire.read? report.properties.mappedPorts

/-- Reported as the address of the host, which nobody is to use. -/
def hostIp : String := "255.255.255.255"

def of (address : Address) (mappings : List PortMapping) (dnsServers : List String) : Report where
  properties :=
    { containerIp := address.text
      hostIp
      mappedPorts := Wire.text mappings }
  dnsServers

end Report

end ContainerNetwork
