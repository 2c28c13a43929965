/-!
# Protocol numbers

The numbers by which access control lists and firewall rules name a protocol.
-/

namespace ContainerNetwork.IpProtocol

def icmp : UInt16 := 1

def tcp : UInt16 := 6

def udp : UInt16 := 17

def any : UInt16 := 256

end ContainerNetwork.IpProtocol
