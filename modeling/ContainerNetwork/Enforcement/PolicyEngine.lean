import ContainerNetwork.Address.Block
import ContainerNetwork.Enforcement.Basic

/-!
# Enforcement by endpoint policies

Rules become entries of the access control list of the container's endpoint.
-/

namespace ContainerNetwork.PolicyEngine

/-- Blocks all traffic.  An endpoint without entries is unrestricted, so that a container without
rules needs these. -/
def denyAll : List AclEntry := [.blocking .outbound, .blocking .inbound]

def inboundEntry (address : Address) (port : UInt16) : AclEntry where
  action := .allow
  direction := .inbound
  protocol := IpProtocol.tcp
  localAddresses := address.text
  localPort := Decimal.text port.toNat
  site := some .switch

/-- Forwards a port: an entry of the endpoint lets the traffic in. -/
def forward (container : String) (rule : InboundRule) (address : Address) :
    Operation Inbound := do
  let containerPort ← InboundRule.port rule.containerPort
  let hostPort ← rule.reserveHostPort container
  ContainerCommand.permitHttp container rule.containerPort
  return {
    mapping := rule.mapping hostPort
    nat := .tcp containerPort hostPort
    acl := some (inboundEntry address containerPort) }

/-- The remote addresses of a rule as blocks; none restricts nothing, and neither does a range of
all addresses. -/
def remoteAddresses (networks : List AddressRange) : String :=
  if networks.any AddressRange.coversAll then ""
  else Pieces.join ", " ((networks.flatMap AddressRange.blocks).map Block.text)

def outboundEntry (rule : OutboundRule) : Except Failure AclEntry := do
  let (protocol, withPorts) ← rule.protocol.outbound
  return {
    action := .allow
    direction := .outbound
    protocol
    remoteAddresses := remoteAddresses rule.networks
    remotePort := rule.remotePorts withPorts
    site := some .switch }

/-- Allows outbound traffic by an entry of the endpoint. -/
def permit (rule : OutboundRule) : Operation (Option AclEntry) :=
  Operation.ofExcept ((outboundEntry rule).map some)

/-- Gives back all that the host keeps for the rules of a container. -/
def withdraw (container : String) : Operation Unit :=
  Operation.pool (.call (.releaseAllPorts container))

end ContainerNetwork.PolicyEngine
