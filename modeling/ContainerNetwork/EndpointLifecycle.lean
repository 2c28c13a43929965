import ContainerNetwork.Enforcement.Rules

/-!
# The life of an endpoint

An endpoint is created on the shared network, attached to its container, given its policies and in
the end detached and deleted.  An endpoint that cannot be attached is deleted at once.
-/

namespace ContainerNetwork

/-- The adapter of the host that belongs to a container or network. -/
def adapterOf (name : String) : String := "vEthernet (" ++ name ++ ")"

/-- The usable port of an attached endpoint: that of the first allocator of its kind, which has to
name a compartment and a port. -/
def Endpoint.port? (endpoint : Endpoint) : Option Allocator :=
  (endpoint.resources.allocators.find? (·.kind = Allocator.endpointPort)).filter fun allocator =>
    allocator.compartment ≠ 0 ∧ ¬allocator.portGuid.isEmpty

/-- The firewall rule that the host makes by itself for an endpoint's port. -/
def Allocator.generatedRule (allocator : Allocator) : String :=
  "Compartment " ++ Decimal.text allocator.compartment.toNat ++ " - " ++ allocator.portGuid

namespace EndpointLifecycle

/-- How often creating an endpoint is tried while the host fails in passing. -/
def createAttempts : Nat := 3

/-- How often a new adapter is looked for. -/
def adapterProbes : Nat := 10

/-- The time after each look for an adapter, in milliseconds. -/
def probeInterval : Nat := 200

/-- How often the rule that the host makes is looked for. -/
def ruleLookups : Nat := 3

/-- The time by which the wait before each look for a rule grows, in milliseconds. -/
def lookupBackoff : Nat := 200

/-- The endpoint that is asked of the host for a container. -/
def descriptor (settings : Settings) (container networkId : String) : Endpoint where
  name := container
  networkId
  dnsServers := Pieces.join "," settings.dnsServers
  policies :=
    if settings.maximumOutgoingBandwidth = 0 then []
    else [.qos ⟨settings.maximumOutgoingBandwidth⟩]

/-- Creates an endpoint; `retries` times more while the host fails in passing. -/
def createRetrying (endpoint : Endpoint) : (retries : Nat) → Operation Endpoint
  | 0 => Operation.host (.call (.createEndpoint endpoint))
  | retries + 1 => do
      match ← Operation.result (.host (.call (.createEndpoint endpoint))) with
      | .ok created => return created
      | .error (.host .unspecified) => createRetrying endpoint retries
      | .error failure => throw failure

/-- Waits for the adapter of a container. -/
def awaitAdapter (adapter : String) : (probes : Nat) → Operation Unit
  | 0 => throw (.interfaceNotReady adapter)
  | probes + 1 => do
      if ← Operation.host (.call (.adapterExists adapter)) then return
      Operation.sleep probeInterval
      awaitAdapter adapter probes

/-- Deletes a rule that the host is about to make.  Before each further look for it the wait grows,
from `wait` milliseconds on. -/
def deleteGeneratedRule (rule : String) (wait : Nat) : (lookups : Nat) → Operation Unit
  | 0 => throw (.firewallRuleNotGenerated rule)
  | lookups + 1 => do
      Operation.sleep wait
      if ← Operation.host (.call (.ruleExists rule)) then Operation.host (.call (.deleteRule rule))
      else deleteGeneratedRule rule (wait + lookupBackoff) lookups

/-- Deletes the rule that the host made for an attached endpoint, since it lets through what the
rules of the container do not. -/
def closeGeneratedRule (endpoint : Endpoint) : Operation Unit :=
  match endpoint.port? with
  | none => throw (.invalidEndpointAllocators endpoint.id endpoint.resources.allocators)
  | some allocator => deleteGeneratedRule allocator.generatedRule 0 ruleLookups

/-- Attaches a created endpoint and returns it as the host then describes it. -/
def attach (settings : Settings) (container : String) (created : Endpoint) :
    Operation Endpoint := do
  Operation.host (.call (.attachEndpoint container created.id))
  awaitAdapter (adapterOf container) adapterProbes
  let attached ← Operation.host (.call (.endpointById created.id))
  if settings.enforcement = .firewall then closeGeneratedRule attached
  return attached

/-- Creates the endpoint of a container on the shared network and attaches it. -/
def create (settings : Settings) (container : String) : Operation Endpoint := do
  let network ← Operation.host (.call (.networkByName settings.networkName))
  let created ← createRetrying (descriptor settings container network.id) (createAttempts - 1)
  match ← Operation.result (attach settings container created) with
  | .ok attached => return attached
  | .error failure =>
      discard (Operation.result (.host (.call (.deleteEndpoint created))))
      throw failure

/-- The policies that a container's rules add to its endpoint. -/
def addedPolicies (settings : Settings) (nat : List PortForward) (acl : List AclEntry) :
    List Policy :=
  let acl := if acl = [] ∧ settings.enforcement = .policyEngine then PolicyEngine.denyAll else acl
  nat.map .nat ++ acl.map .acl

/-- Adds policies to those an endpoint has, in one update. -/
def applyPolicies (settings : Settings) (endpoint : Endpoint) (nat : List PortForward)
    (acl : List AclEntry) : Operation Endpoint :=
  Operation.host <| .call <| .updateEndpoint
    { endpoint with policies := endpoint.policies ++ addedPolicies settings nat acl }

/-- Sets the MTU of a container's adapter: the configured one, or that of the shared network. -/
def setMtu (settings : Settings) (container : String) : Operation UInt32 := do
  let mtu ←
    if settings.mtu = 0 then Operation.host (.call (.adapterMtu (adapterOf settings.networkName)))
    else pure settings.mtu
  Operation.host (.call (.setAdapterMtu (adapterOf container) mtu))
  return mtu

/-- The result of a detachment, of which a container that is gone has no more need. -/
def detachment : Except Failure Unit → Except Failure Unit
  | .error (.host .computeSystemDoesNotExist) => .ok ()
  | result => result

/-- Detaches and deletes the endpoint of a container, if there is one. -/
def delete (container : String) : Operation Unit := do
  match ← Operation.result (.host (.call (.endpointByName container))) with
  | .error (.host (.endpointNotFound _)) => return
  | .error failure => throw failure
  | .ok endpoint =>
      let detached ← Operation.result (.host (.call (.detachEndpoint container endpoint.id)))
      let deleted ← Operation.result (.host (.call (.deleteEndpoint endpoint)))
      Operation.ofExcept (Failure.combine (.ofResults [detachment detached, deleted]))

end EndpointLifecycle

end ContainerNetwork
