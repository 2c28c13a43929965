import ContainerNetwork.Json.Wire

/-!
# Forwarded ports

The policy that leads an external port of the host to an internal port of the container.
-/

namespace ContainerNetwork

structure PortForward where
  protocol : String
  internalPort : UInt16
  externalPort : UInt16
  deriving DecidableEq

namespace PortForward

def tcp (internalPort externalPort : UInt16) : PortForward := ⟨"TCP", internalPort, externalPort⟩

def fields : List String := ["Protocol", "InternalPort", "ExternalPort"]

def members (forward : PortForward) : List (String × Json) :=
  Record.member "Protocol" forward.protocol ++ Record.member "InternalPort" forward.internalPort
    ++ Record.member "ExternalPort" forward.externalPort

def ofRecord? (record : Record) : Option PortForward := do
  return {
    protocol := ← record.required "Protocol"
    internalPort := ← record.required "InternalPort"
    externalPort := ← record.required "ExternalPort" }

instance : Wire PortForward where
  toJson forward := .ofMembers forward.members
  ofJson? json := Record.ofJson? fields json >>= ofRecord?

end PortForward

end ContainerNetwork
