import ContainerNetwork.Proofs.Enforcement.RemoteAddresses
import ContainerNetwork.Proofs.Except

/-!
# What entries say

The entries of an access control list, member by member: the one that lets in what is sent to a
forwarded port, the one that lets out the traffic of an outbound rule, and the one that blocks all
traffic in a direction.  The policy engine makes these and no others.
-/

namespace ContainerNetwork

namespace Protocol

/-- The number by which entries and firewall rules name a protocol. -/
def number? : Protocol → Option UInt16
  | all => some 256
  | tcp => some 6
  | udp => some 17
  | icmp => some 1
  | unknown _ _ => none

/-- A protocol without a meaning is refused. -/
theorem outbound_cases (protocol : Protocol) :
    (∃ code unlisted, protocol = .unknown code unlisted ∧
        protocol.outbound = .error (.invalidProtocol code)) ∨
      ∃ number withPorts, protocol.outbound = .ok (number, withPorts) := by
  cases protocol with
  | unknown code unlisted => exact .inl ⟨code, unlisted, rfl, rfl⟩
  | all | tcp | udp | icmp => exact .inr ⟨_, _, rfl⟩

variable {protocol : Protocol} {number : UInt16} {withPorts : Bool}

theorem number?_of_outbound (houtbound : protocol.outbound = .ok (number, withPorts)) :
    protocol.number? = some number := by
  cases protocol <;> cases houtbound <;> rfl

theorem withPorts_of_outbound (hported : protocol = .tcp ∨ protocol = .udp)
    (houtbound : protocol.outbound = .ok (number, withPorts)) : withPorts = true := by
  rcases hported with rfl | rfl <;> cases houtbound <;> rfl

theorem portless_of_outbound (hportless : protocol = .all ∨ protocol = .icmp)
    (houtbound : protocol.outbound = .ok (number, withPorts)) : withPorts = false := by
  rcases hportless with rfl | rfl <;> cases houtbound <;> rfl

end Protocol

/-- The text of the remote ports of a rule: the list of its ports where the protocol has any. -/
structure OutboundRule.HasPortText (rule : OutboundRule) (text : String) : Prop where
  ported : rule.protocol = .tcp ∨ rule.protocol = .udp → text = PortRange.listText rule.ports
  portless : rule.protocol = .all ∨ rule.protocol = .icmp → text = ""

theorem OutboundRule.hasPortText_remotePorts {rule : OutboundRule} {number : UInt16}
    {withPorts : Bool} (houtbound : rule.protocol.outbound = .ok (number, withPorts)) :
    rule.HasPortText (rule.remotePorts withPorts) where
  ported hported := by
    rw [Protocol.withPorts_of_outbound hported houtbound, remotePorts, if_pos rfl]
  portless hportless := by
    rw [Protocol.portless_of_outbound hportless houtbound, remotePorts, if_neg Bool.false_ne_true]

namespace AclEntry

/-- Whether an entry lets in what is sent to one port of a container over TCP, from anywhere. -/
structure LetsIn (address : Address) (port : UInt16) (entry : AclEntry) : Prop where
  action : entry.action = .allow
  direction : entry.direction = .inbound
  protocol : entry.protocol = 6
  localAddresses : entry.localAddresses = address.text
  localPort : entry.localPort = Decimal.text port.toNat
  remoteAddresses : entry.remoteAddresses = ""
  remotePort : entry.remotePort = ""
  site : entry.site = some .switch

/-- Whether an entry lets out what an outbound rule allows: to the blocks of its networks, or
anywhere if one of them has all addresses. -/
structure LetsOut (rule : OutboundRule) (entry : AclEntry) : Prop where
  action : entry.action = .allow
  direction : entry.direction = .outbound
  protocol : rule.protocol.number? = some entry.protocol
  localAddresses : entry.localAddresses = ""
  localPort : entry.localPort = ""
  remoteAddresses : entry.remoteAddresses =
    if AddressRange.all ∈ rule.networks then ""
    else Pieces.join ", " ((rule.networks.flatMap AddressRange.blocks).map Block.text)
  remotePort : rule.HasPortText entry.remotePort
  site : entry.site = some .switch

/-- Whether an entry blocks all traffic in a direction, wherever it is enforced. -/
def BlocksAll (direction : Direction) (entry : AclEntry) : Prop :=
  { entry with site := none } =
    { action := .block
      direction
      protocol := 256
      localAddresses := ""
      localPort := ""
      remoteAddresses := ""
      remotePort := ""
      site := none }

instance (direction : Direction) : DecidablePred (BlocksAll direction) := fun entry =>
  inferInstanceAs (Decidable ({ entry with site := none } = AclEntry.mk .block direction 256 "" ""
    "" "" none))

end AclEntry

namespace PolicyEngine

theorem letsIn_inboundEntry (address : Address) (port : UInt16) :
    (inboundEntry address port).LetsIn address port := by
  constructor <;> rfl

theorem remoteAddresses_eq (networks : List AddressRange) : remoteAddresses networks =
    if AddressRange.all ∈ networks then ""
    else Pieces.join ", " ((networks.flatMap AddressRange.blocks).map Block.text) := by
  simp only [remoteAddresses, any_coversAll]

theorem letsOut_of_outboundEntry {rule : OutboundRule} {entry : AclEntry}
    (hentry : outboundEntry rule = .ok entry) : entry.LetsOut rule := by
  obtain ⟨⟨number, withPorts⟩, houtbound, hmade⟩ := bind_eq_ok_iff.mp hentry
  cases hmade
  exact ⟨rfl, rfl, Protocol.number?_of_outbound houtbound, rfl, rfl,
    remoteAddresses_eq rule.networks, OutboundRule.hasPortText_remotePorts houtbound, rfl⟩

theorem blocksAll_blocking (direction : Direction) :
    (AclEntry.blocking direction).BlocksAll direction := rfl

/-- What lets traffic in blocks none. -/
theorem not_blocksAll_inboundEntry (address : Address) (port : UInt16) (direction : Direction) :
    ¬(inboundEntry address port).BlocksAll direction := by
  intro hblocks
  have haction := congrArg AclEntry.action hblocks
  cases haction

end PolicyEngine

end ContainerNetwork
