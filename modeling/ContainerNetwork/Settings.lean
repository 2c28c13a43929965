import ContainerNetwork.FileTree
import ContainerNetwork.PortPool.ManagedRange

/-!
# Configuration

The settings that all containers of a host share.  Every setting has a default, so a configuration
may give as few of them as it likes.
-/

namespace ContainerNetwork

/-- Where the rules of a container are enforced. -/
inductive Enforcement where
  | policyEngine
  | firewall
  deriving DecidableEq

namespace Enforcement

def name : Enforcement → String
  | policyEngine => "policy_engine"
  | firewall => "firewall"

def ofName? (name : String) : Option Enforcement :=
  if name = "policy_engine" then some policyEngine
  else if name = "firewall" then some firewall
  else none

instance : Wire Enforcement where
  toJson enforcement := .ofText enforcement.name
  ofJson? json := json.name? .null >>= ofName?

end Enforcement

structure Settings where
  networkName : String := "sluice-nat"
  subnet : String := "172.30.0.0/22"
  gateway : String := "172.30.0.1"
  dnsServers : List String := []
  /-- In bytes per second; zero sets no limit. -/
  maximumOutgoingBandwidth : UInt64 := 0
  startPort : UInt16 := 40000
  totalPorts : UInt16 := 5000
  enforcement : Enforcement := .firewall
  /-- Zero takes the MTU of the shared network's adapter. -/
  mtu : UInt32 := 0
  deriving DecidableEq

namespace Settings

def fields : List String :=
  ["network_name", "subnet_range", "gateway_address", "dns_servers",
    "maximum_outgoing_bandwidth", "start_port", "total_ports", "enforcement", "mtu"]

instance : Inhabited Settings := ⟨{}⟩

instance : Wire Settings where
  toJson settings := .ofMembers <|
    Record.member "network_name" settings.networkName
      ++ Record.member "subnet_range" settings.subnet
      ++ Record.member "gateway_address" settings.gateway
      ++ Record.member "dns_servers" settings.dnsServers
      ++ Record.member "maximum_outgoing_bandwidth" settings.maximumOutgoingBandwidth
      ++ Record.member "start_port" settings.startPort
      ++ Record.member "total_ports" settings.totalPorts
      ++ Record.member "enforcement" settings.enforcement
      ++ Record.member "mtu" settings.mtu
  ofJson? json := do
    let record ← Record.ofJson? fields json
    let default : Settings := {}
    return {
      networkName := ← record.optional "network_name" default.networkName
      subnet := ← record.optional "subnet_range" default.subnet
      gateway := ← record.optional "gateway_address" default.gateway
      dnsServers := ← record.optional "dns_servers" default.dnsServers
      maximumOutgoingBandwidth :=
        ← record.optional "maximum_outgoing_bandwidth" default.maximumOutgoingBandwidth
      startPort := ← record.optional "start_port" default.startPort
      totalPorts := ← record.optional "total_ports" default.totalPorts
      enforcement := ← record.optional "enforcement" default.enforcement
      mtu := ← record.optional "mtu" default.mtu }

/-- The ports that the configuration manages. -/
def managedRange (settings : Settings) : ManagedRange := ⟨settings.startPort, settings.totalPorts⟩

def ofText (text : String) : Except SetupFailure Settings :=
  (Wire.read? text).elim (.error .config) .ok

def ofContent (content : ByteArray) : Except SetupFailure Settings :=
  (String.fromUTF8? content).elim (.error .io) ofText

/-- Reads the configuration file that a path text names. -/
def load (tree : FileTree) (path : String) : Except SetupFailure Settings :=
  match tree.read (.ofPath (.ofText path)) with
  | .ok content => ofContent content
  | .error _ => .error .io

end Settings

end ContainerNetwork
