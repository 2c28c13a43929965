import ContainerNetwork.Address.Basic

/-!
# The rules of a request

Inbound rules forward a port of the host to a port of the container.  Outbound rules allow traffic
to remote addresses and ports.
-/

namespace ContainerNetwork

structure InboundRule where
  /-- Zero asks for any free port. -/
  hostPort : UInt32 := 0
  containerPort : UInt32 := 0
  deriving DecidableEq

instance : Wire InboundRule where
  toJson rule := .ofMembers <|
    Record.member "host_port" rule.hostPort ++ Record.member "container_port" rule.containerPort
  ofJson? json := do
    let record ← Record.ofJson? ["host_port", "container_port"] json
    return {
      hostPort := ← record.optional "host_port" 0
      containerPort := ← record.optional "container_port" 0 }

/-- The protocol of an outbound rule; a code without a meaning is kept. -/
inductive Protocol where
  | all
  | tcp
  | udp
  | icmp
  | unknown (code : UInt8) (unlisted : 3 < code)
  deriving DecidableEq

namespace Protocol

def code : Protocol → UInt8
  | all => 0
  | tcp => 1
  | udp => 2
  | icmp => 3
  | unknown code _ => code

def ofCode (code : UInt8) : Protocol :=
  if h : 3 < code then .unknown code h
  else if code = 0 then .all
  else if code = 1 then .tcp
  else if code = 2 then .udp
  else .icmp

instance : Wire Protocol where
  toJson protocol := toJson protocol.code
  ofJson? json := (ofJson? json).map ofCode

end Protocol

/-- All ports from `first` to `last`; nothing asks that `first` come before `last`. -/
structure PortRange where
  first : UInt16 := 0
  last : UInt16 := 0
  deriving DecidableEq

namespace PortRange

def single (port : UInt16) : PortRange := ⟨port, port⟩

def text (range : PortRange) : String :=
  Decimal.text range.first.toNat ++ "-" ++ Decimal.text range.last.toNat

/-- The ports of a list of ranges as firewall rules and access control lists write them. -/
def listText (ranges : List PortRange) : String := Pieces.join "," (ranges.map text)

instance : Wire PortRange where
  toJson range := .ofMembers <| Record.member "start" range.first ++ Record.member "end" range.last
  ofJson? json := do
    let record ← Record.ofJson? ["start", "end"] json
    return { first := ← record.optional "start" 0, last := ← record.optional "end" 0 }

end PortRange

structure OutboundRule where
  protocol : Protocol := .all
  networks : List AddressRange := []
  ports : List PortRange := []
  deriving DecidableEq

instance : Wire OutboundRule where
  toJson rule := .ofMembers <|
    Record.member "protocol" rule.protocol ++ Record.member "networks" rule.networks
      ++ Record.member "ports" rule.ports
  ofJson? json := do
    let record ← Record.ofJson? ["protocol", "networks", "ports"] json
    return {
      protocol := ← record.optional "protocol" .all
      networks := ← record.optional "networks" []
      ports := ← record.optional "ports" [] }

/-- A forwarded port, as reported to the caller. -/
structure PortMapping where
  hostPort : UInt32
  containerPort : UInt32
  deriving DecidableEq

instance : Wire PortMapping where
  toJson mapping := .ofMembers <|
    Record.member "HostPort" mapping.hostPort
      ++ Record.member "ContainerPort" mapping.containerPort
  ofJson? json := do
    let record ← Record.ofJson? ["HostPort", "ContainerPort"] json
    return {
      hostPort := ← record.required "HostPort"
      containerPort := ← record.required "ContainerPort" }

end ContainerNetwork
