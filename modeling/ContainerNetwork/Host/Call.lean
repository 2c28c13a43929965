import ContainerNetwork.Failure
import ContainerNetwork.Host.FirewallRule

/-!
# Calls to the host

Everything that an operation asks of the host: the control plane for networks and endpoints, the
firewall, commands in a container, the adapters, the port pool and the clock.
-/

namespace ContainerNetwork

/-- How a command in a container ended. -/
inductive CommandEnd where
  | exited (code : Int)
  | timedOut
  deriving DecidableEq

inductive Call where
  | networkByName (name : String)
  | createNetwork (network : Network)
  | deleteNetwork (network : Network)
  | createEndpoint (endpoint : Endpoint)
  | updateEndpoint (endpoint : Endpoint)
  | deleteEndpoint (endpoint : Endpoint)
  | endpointById (id : String)
  | endpointByName (name : String)
  | attachEndpoint (container endpointId : String)
  | detachEndpoint (container endpointId : String)
  | createRule (rule : FirewallRule)
  | deleteRule (name : String)
  | ruleExists (name : String)
  /-- Runs a command for at most `timeout` milliseconds. -/
  | exec (container command : String) (timeout : Nat)
  | adapterExists (adapter : String)
  | adapterMtu (adapter : String)
  | setAdapterMtu (adapter : String) (mtu : UInt32)
  | allocatePort (handle : String) (port : UInt16)
  | releaseAllPorts (handle : String)
  | sleep (milliseconds : Nat)
  deriving DecidableEq

namespace Call

/-- What the host answers to a call. -/
@[reducible]
def Answer : Call → Type
  | networkByName _ | createNetwork _ => Except HostFault Network
  | createEndpoint _ | updateEndpoint _ | endpointById _ | endpointByName _ =>
      Except HostFault Endpoint
  | deleteNetwork _ | deleteEndpoint _ | attachEndpoint _ _ | detachEndpoint _ _ | createRule _
  | deleteRule _ | setAdapterMtu _ _ => Except HostFault Unit
  | ruleExists _ | adapterExists _ => Except HostFault Bool
  | exec _ _ _ => Except HostFault CommandEnd
  | adapterMtu _ => Except HostFault UInt32
  | allocatePort _ _ => Except Failure UInt16
  | releaseAllPorts _ => Except Failure Unit
  | sleep _ => Unit

end Call

/-- A call without its arguments. -/
inductive CallKind where
  | networkByName
  | createNetwork
  | deleteNetwork
  | createEndpoint
  | updateEndpoint
  | deleteEndpoint
  | endpointById
  | endpointByName
  | attachEndpoint
  | detachEndpoint
  | createRule
  | deleteRule
  | ruleExists
  | exec
  | adapterExists
  | adapterMtu
  | setAdapterMtu
  | allocatePort
  | releaseAllPorts
  | sleep
  deriving DecidableEq

def Call.kind : Call → CallKind
  | networkByName _ => .networkByName
  | createNetwork _ => .createNetwork
  | deleteNetwork _ => .deleteNetwork
  | createEndpoint _ => .createEndpoint
  | updateEndpoint _ => .updateEndpoint
  | deleteEndpoint _ => .deleteEndpoint
  | endpointById _ => .endpointById
  | endpointByName _ => .endpointByName
  | attachEndpoint _ _ => .attachEndpoint
  | detachEndpoint _ _ => .detachEndpoint
  | createRule _ => .createRule
  | deleteRule _ => .deleteRule
  | ruleExists _ => .ruleExists
  | exec _ _ _ => .exec
  | adapterExists _ => .adapterExists
  | adapterMtu _ => .adapterMtu
  | setAdapterMtu _ _ => .setAdapterMtu
  | allocatePort _ _ => .allocatePort
  | releaseAllPorts _ => .releaseAllPorts
  | sleep _ => .sleep

end ContainerNetwork
