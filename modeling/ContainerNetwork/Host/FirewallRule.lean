import ContainerNetwork.Host.Traffic

/-!
# Rules of the host firewall

Several rules may share a name; deleting by name removes all of them.
-/

namespace ContainerNetwork

/-- A firewall rule; an empty address or port text restricts nothing. -/
structure FirewallRule where
  name : String
  action : Verdict
  direction : Direction
  protocol : UInt16
  localAddresses : String := ""
  localPorts : String := ""
  remoteAddresses : String := ""
  remotePorts : String := ""
  deriving DecidableEq

namespace FirewallRule

/-- Allows all traffic of a protocol in one direction. -/
def allowing (name : String) (direction : Direction) (protocol : UInt16) : FirewallRule :=
  { name, action := .allow, direction, protocol }

end FirewallRule

end ContainerNetwork
