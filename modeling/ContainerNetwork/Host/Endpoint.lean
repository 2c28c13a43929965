import ContainerNetwork.Address.Basic
import ContainerNetwork.Host.Policy.Tagged

/-!
# Endpoints of the host

An endpoint is the virtual network interface of one container, named after the container's handle.
-/

namespace ContainerNetwork

/-- A resource that the host gave to an attached endpoint. -/
structure Allocator where
  kind : UInt32 := 0
  compartment : UInt32 := 0
  portGuid : String := ""
  deriving DecidableEq

namespace Allocator

/-- The kind of the allocator that holds the port of an endpoint. -/
def endpointPort : UInt32 := 1

instance : Wire Allocator where
  toJson allocator := .ofMembers <|
    Record.member "Type" allocator.kind ++ Record.member "CompartmentId" allocator.compartment
      ++ Record.member "EndpointPortGuid" allocator.portGuid
  ofJson? json := do
    let record ← Record.ofJson? ["Type", "CompartmentId", "EndpointPortGuid"] json
    return {
      kind := ← record.optional "Type" 0
      compartment := ← record.optional "CompartmentId" 0
      portGuid := ← record.optional "EndpointPortGuid" "" }

end Allocator

structure Resources where
  allocators : List Allocator := []
  deriving DecidableEq

instance : Wire Resources where
  toJson resources := .ofMembers (Record.member "Allocators" resources.allocators)
  ofJson? json := do
    let record ← Record.ofJson? ["Allocators"] json
    return { allocators := ← record.optional "Allocators" [] }

structure Endpoint where
  /-- Given by the host when it creates the endpoint. -/
  id : String := ""
  name : String
  networkId : String := ""
  address : Option Address := none
  /-- The servers' addresses, joined with commas. -/
  dnsServers : String := ""
  policies : List Policy := []
  resources : Resources := {}
  deriving DecidableEq

namespace Endpoint

def fields : List String :=
  ["Id", "Name", "VirtualNetwork", "IPAddress", "DNSServerList", "Policies", "Resources"]

/-- The containers around a policy of an endpoint: the endpoint and its list of policies. -/
def policyDepth : Nat := 2

instance : Wire Endpoint where
  toJson endpoint := .ofMembers <|
    Record.member "Id" endpoint.id ++ Record.member "Name" endpoint.name
      ++ Record.member "VirtualNetwork" endpoint.networkId
      ++ (endpoint.address.map fun address => Record.member "IPAddress" address).getD []
      ++ Record.memberUnless endpoint.dnsServers.isEmpty "DNSServerList" endpoint.dnsServers
      ++ Record.member "Policies" endpoint.policies
      ++ Record.member "Resources" endpoint.resources
  ofJson? json := do
    let record ← Record.ofJson? fields json
    return {
      id := ← record.optional "Id" ""
      name := ← record.required "Name"
      networkId := ← record.optional "VirtualNetwork" ""
      address := ← record.optionalBy (Json.nullable? ofJson?) "IPAddress" none
      dnsServers := ← record.optional "DNSServerList" ""
      policies := ← record.optionalBy (Json.list? (Policy.ofJsonWithin? policyDepth))
        "Policies" []
      resources := ← record.optional "Resources" {} }

end Endpoint

end ContainerNetwork
