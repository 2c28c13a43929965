import ContainerNetwork.EndpointLifecycle
import ContainerNetwork.Handle
import ContainerNetwork.Request

/-!
# The network of a container

`up` creates the endpoint of a container, puts its rules in force and reports its address and
ports.  `down` takes back everything.  An `up` that fails once the endpoint stands takes back what
it did and fails as it would have.
-/

namespace ContainerNetwork.ContainerLifecycle

/-- The greatest number of ports that are forwarded to one container. -/
def maxPortMappings : Nat := 2

/-- Forwards the ports of the inbound rules, in their order. -/
def forwardAll (settings : Settings) (container : String) (address : Address)
    (rules : List InboundRule) : Operation (List Inbound) :=
  rules.mapM fun rule => settings.enforcement.forward container rule address

/-- Allows the traffic of the outbound rules, in their order. -/
def permitAll (settings : Settings) (container : String) (address : Address)
    (rules : List OutboundRule) : Operation (List (Option AclEntry)) :=
  rules.mapM fun rule => settings.enforcement.permit container rule address

/-- Puts the rules of a request in force on an attached endpoint. -/
def install (settings : Settings) (container : String) (request : Request) (endpoint : Endpoint) :
    Operation Report := do
  let some address := endpoint.address | throw (.missingEndpointAddress endpoint.id)
  let inbound ← forwardAll settings container address request.inbound
  let outbound ← permitAll settings container address request.outbound
  let acl := inbound.filterMap Inbound.acl ++ outbound.filterMap id
  discard (EndpointLifecycle.applyPolicies settings endpoint (inbound.map Inbound.nat) acl)
  discard (EndpointLifecycle.setMtu settings container)
  return .of address (inbound.map Inbound.mapping) settings.dnsServers

/-- Deletes the endpoint of a container and gives back all that was kept for its rules; both are
attempted. -/
def down (settings : Settings) (handle : Handle) : Operation Unit := do
  let deleted ← Operation.result (EndpointLifecycle.delete handle.text)
  let cleaned ← Operation.result (settings.enforcement.withdraw handle.text)
  Operation.ofExcept (Failure.combine (.ofResults [deleted, cleaned]))

def up (settings : Settings) (handle : Handle) (request : Request) : Operation Report := do
  if maxPortMappings < request.inbound.length then
    throw (.tooManyPortMappings request.inbound.length)
  let endpoint ← EndpointLifecycle.create settings handle.text
  match ← Operation.result (install settings handle.text request endpoint) with
  | .ok report => return report
  | .error failure =>
      discard (Operation.result (down settings handle))
      throw failure

end ContainerNetwork.ContainerLifecycle
