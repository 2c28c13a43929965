import ContainerNetwork.Json.Wire

/-!
# Bandwidth limits

The policy that limits the outgoing bytes per second.
-/

namespace ContainerNetwork

structure BandwidthLimit where
  bytesPerSecond : UInt64
  deriving DecidableEq

namespace BandwidthLimit

def fields : List String := ["MaximumOutgoingBandwidthInBytes"]

def members (limit : BandwidthLimit) : List (String × Json) :=
  Record.member "MaximumOutgoingBandwidthInBytes" limit.bytesPerSecond

def ofRecord? (record : Record) : Option BandwidthLimit := do
  return { bytesPerSecond := ← record.required "MaximumOutgoingBandwidthInBytes" }

instance : Wire BandwidthLimit where
  toJson limit := .ofMembers limit.members
  ofJson? json := Record.ofJson? fields json >>= ofRecord?

end BandwidthLimit

end ContainerNetwork
