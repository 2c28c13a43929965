/-!
# Faults of the host

What a call to the host may fail with.  Faults are told apart by their kind and never by their
text.
-/

namespace ContainerNetwork

inductive HostFault where
  /-- A passing failure of the control plane. -/
  | unspecified
  | endpointNotFound (key : String)
  | networkNotFound (name : String)
  /-- The container of an endpoint is gone. -/
  | computeSystemDoesNotExist
  | other (text : String)
  deriving DecidableEq

namespace HostFault

def message : HostFault → String
  | unspecified => "HNS failed with error : Unspecified error"
  | endpointNotFound key => "Endpoint " ++ key ++ " not found"
  | networkNotFound name => "Network " ++ name ++ " not found"
  | computeSystemDoesNotExist => "A Compute System with the specified identifier does not exist"
  | other text => text

end HostFault

end ContainerNetwork
