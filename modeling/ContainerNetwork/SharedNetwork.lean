import ContainerNetwork.Settings
import ContainerNetwork.Plan

/-!
# The shared network

All containers of a host are connected to one network, which is created before the first of them
and deleted after the last.
-/

namespace ContainerNetwork.SharedNetwork

/-- The subnet that the configuration asks for. -/
def subnet (settings : Settings) : Subnet := ⟨settings.subnet, settings.gateway⟩

/-- The network that is asked of the host. -/
def descriptor (settings : Settings) : Network where
  name := settings.networkName
  kind := "nat"
  subnets := [subnet settings]
  dnsServers := Pieces.join "," settings.dnsServers

/-- The network of the configured name, if the host has one. -/
def find? (settings : Settings) : Operation (Option Network) := do
  match ← Operation.result (.host (.call (.networkByName settings.networkName))) with
  | .ok network => return some network
  | .error (.host (.networkNotFound _)) => return none
  | .error failure => throw failure

/-- Creates the network, unless it stands with the configured subnet and no other. -/
def create (settings : Settings) : Operation Network := do
  match ← find? settings with
  | none => Operation.host (.call (.createNetwork (descriptor settings)))
  | some network =>
      if network.subnets = [subnet settings] then return network
      throw (.networkNameConflict settings.networkName network.subnets)

/-- Deletes the network, if there is one. -/
def delete (settings : Settings) : Operation Unit := do
  match ← find? settings with
  | none => return
  | some network => Operation.host (.call (.deleteNetwork network))

end ContainerNetwork.SharedNetwork
