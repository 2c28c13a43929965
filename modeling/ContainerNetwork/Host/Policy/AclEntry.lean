import ContainerNetwork.Host.Traffic
import ContainerNetwork.IpProtocol
import ContainerNetwork.Json.Wire

/-!
# Entries of the access control list

An entry allows or blocks traffic in one direction.  An empty address or port text restricts
nothing.
-/

namespace ContainerNetwork

/-- Where an entry is enforced. -/
inductive AclSite where
  | host
  | switch
  deriving DecidableEq

namespace AclSite

def name : AclSite → String
  | host => "Host"
  | switch => "Switch"

def ofName? (name : String) : Option AclSite :=
  if name = "Host" then some host else if name = "Switch" then some switch else none

theorem ofName?_name (site : AclSite) : ofName? site.name = some site := by
  cases site <;> rfl

end AclSite

structure AclEntry where
  action : Verdict
  direction : Direction
  protocol : UInt16
  localAddresses : String := ""
  localPort : String := ""
  remoteAddresses : String := ""
  remotePort : String := ""
  site : Option AclSite := none
  deriving DecidableEq

namespace AclEntry

/-- Blocks all traffic in one direction. -/
def blocking (direction : Direction) : AclEntry :=
  { action := .block, direction, protocol := IpProtocol.any }

def fields : List String :=
  ["Action", "Direction", "Protocol", "LocalAddresses", "LocalPort", "RemoteAddresses",
    "RemotePort", "RuleType"]

def members (entry : AclEntry) : List (String × Json) :=
  Record.member "Action" entry.action.name ++ Record.member "Direction" entry.direction.name
    ++ Record.member "Protocol" entry.protocol
    ++ Record.memberUnless entry.localAddresses.isEmpty "LocalAddresses" entry.localAddresses
    ++ Record.memberUnless entry.localPort.isEmpty "LocalPort" entry.localPort
    ++ Record.memberUnless entry.remoteAddresses.isEmpty "RemoteAddresses" entry.remoteAddresses
    ++ Record.memberUnless entry.remotePort.isEmpty "RemotePort" entry.remotePort
    ++ (entry.site.map fun site => Record.member "RuleType" site.name).getD []

/-- The entry of a record; `payload` is how a name's missing payload may be spelt in it. -/
def ofRecord? (payload : Json.Payload) (record : Record) : Option AclEntry := do
  return {
    action := ← record "Action" >>= Json.name? payload >>= Verdict.ofName?
    direction := ← record "Direction" >>= Json.name? payload >>= Direction.ofName?
    protocol := ← record.required "Protocol"
    localAddresses := ← record.optional "LocalAddresses" ""
    localPort := ← record.optional "LocalPort" ""
    remoteAddresses := ← record.optional "RemoteAddresses" ""
    remotePort := ← record.optional "RemotePort" ""
    site := ← record.optionalBy
      (Json.nullable? fun json => json.name? payload >>= AclSite.ofName?) "RuleType" none }

instance : Wire AclEntry where
  toJson entry := .ofMembers entry.members
  ofJson? json := Record.ofJson? fields json >>= ofRecord? .null

end AclEntry

end ContainerNetwork
