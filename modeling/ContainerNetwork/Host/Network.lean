import ContainerNetwork.Json.Wire

/-!
# Networks of the host

A network as the control plane of the host describes it.
-/

namespace ContainerNetwork

structure Subnet where
  addressPrefix : String
  gateway : String := ""
  deriving DecidableEq

instance : Wire Subnet where
  toJson subnet := .ofMembers <|
    Record.member "AddressPrefix" subnet.addressPrefix
      ++ Record.member "GatewayAddress" subnet.gateway
  ofJson? json := do
    let record ← Record.ofJson? ["AddressPrefix", "GatewayAddress"] json
    return {
      addressPrefix := ← record.required "AddressPrefix"
      gateway := ← record.optional "GatewayAddress" "" }

structure Network where
  /-- Given by the host when it creates the network. -/
  id : String := ""
  name : String
  kind : String := ""
  subnets : List Subnet := []
  /-- The servers' addresses, joined with commas. -/
  dnsServers : String := ""
  deriving DecidableEq

instance : Wire Network where
  toJson network := .ofMembers <|
    Record.member "Id" network.id ++ Record.member "Name" network.name
      ++ Record.member "Type" network.kind ++ Record.member "Subnets" network.subnets
      ++ Record.memberUnless network.dnsServers.isEmpty "DNSServerList" network.dnsServers
  ofJson? json := do
    let record ← Record.ofJson? ["Id", "Name", "Type", "Subnets", "DNSServerList"] json
    return {
      id := ← record.optional "Id" ""
      name := ← record.required "Name"
      kind := ← record.optional "Type" ""
      subnets := ← record.optional "Subnets" []
      dnsServers := ← record.optional "DNSServerList" "" }

end ContainerNetwork
