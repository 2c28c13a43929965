import ContainerNetwork.Enforcement.Basic

/-!
# Enforcement by the host firewall

Rules become rules of the host firewall that are named after the container, so that deleting by
name removes all of them.
-/

namespace ContainerNetwork.Firewall

def inboundRule (container : String) (address : Address) (port : UInt16) : FirewallRule :=
  { FirewallRule.allowing container .inbound IpProtocol.tcp with
    localAddresses := address.text
    localPorts := Decimal.text port.toNat }

/-- Forwards a port: a rule of the host firewall lets the traffic in. -/
def forward (container : String) (rule : InboundRule) (address : Address) :
    Operation Inbound := do
  let containerPort ← InboundRule.port rule.containerPort
  let hostPort ← rule.reserveHostPort container
  Operation.host (.call (.createRule (inboundRule container address containerPort)))
  ContainerCommand.permitHttp container rule.containerPort
  return {
    mapping := rule.mapping hostPort
    nat := .tcp containerPort hostPort
    acl := none }

def outboundRule (container : String) (rule : OutboundRule) (address : Address) :
    Except Failure FirewallRule := do
  let (protocol, withPorts) ← rule.protocol.outbound
  return { FirewallRule.allowing container .outbound protocol with
    localAddresses := address.text
    remoteAddresses := AddressRange.listText rule.networks
    remotePorts := rule.remotePorts withPorts }

/-- Allows outbound traffic; the firewall rule is in force at once, so that no entry is left to
commit. -/
def permit (container : String) (rule : OutboundRule) (address : Address) :
    Operation (Option AclEntry) := do
  let rule ← Operation.ofExcept (outboundRule container rule address)
  Operation.host (.call (.createRule rule))
  return none

/-- Gives back all that the host keeps for the rules of a container, as far as that succeeds. -/
def withdraw (container : String) : Operation Unit := do
  let released ← Operation.result (.pool (.call (.releaseAllPorts container)))
  let deleted ← Operation.result (.host (.call (.deleteRule container)))
  Operation.ofExcept (Failure.combine (.ofResults [released, deleted]))

end ContainerNetwork.Firewall
