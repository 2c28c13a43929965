import ContainerNetwork.ContainerCommand
import ContainerNetwork.Rule

/-!
# Enforcing rules

What the two ways of enforcing the rules of a container have in common.
-/

namespace ContainerNetwork

/-- What an inbound rule comes to. -/
structure Inbound where
  mapping : PortMapping
  nat : PortForward
  /-- The entry that lets the traffic in, where endpoint policies decide on it. -/
  acl : Option AclEntry
  deriving DecidableEq

namespace InboundRule

/-- A port that fits 16 bits. -/
def port (number : UInt32) : Operation UInt16 :=
  if number.toNat < UInt16.size then pure number.toUInt16 else throw (.invalidPort number)

/-- The host port of a rule: the one it names, or a free one. -/
def reserveHostPort (rule : InboundRule) (container : String) : Operation UInt16 := do
  let requested ← port rule.hostPort
  Operation.pool (.call (.allocatePort container requested))

/-- The mapping that a rule comes to once its host port is known. -/
def mapping (rule : InboundRule) (hostPort : UInt16) : PortMapping :=
  ⟨hostPort.toUInt32, rule.containerPort⟩

end InboundRule

namespace Protocol

/-- The number of a protocol and whether its rules name ports. -/
def outbound : Protocol → Except Failure (UInt16 × Bool)
  | tcp => .ok (IpProtocol.tcp, true)
  | udp => .ok (IpProtocol.udp, true)
  | icmp => .ok (IpProtocol.icmp, false)
  | all => .ok (IpProtocol.any, false)
  | unknown code _ => .error (.invalidProtocol code)

end Protocol

namespace OutboundRule

/-- The remote ports of a rule, where its protocol has ports. -/
def remotePorts (rule : OutboundRule) (withPorts : Bool) : String :=
  if withPorts then PortRange.listText rule.ports else ""

end OutboundRule

end ContainerNetwork
