import ContainerNetwork.Causes
import ContainerNetwork.Host.Endpoint
import ContainerNetwork.Host.Fault
import ContainerNetwork.Host.Network
import ContainerNetwork.Text.Duration
import ContainerNetwork.Text.Quoted

/-!
# Failures

`Failure` is what an operation on networks, endpoints and ports may end in; `SetupFailure` is what
may go wrong before there is anything to operate on.  Each has a message and a stable code, some
have a hint.  Where a message quotes an explanation that another component wrote, a placeholder
stands for it.
-/

namespace ContainerNetwork

/-- Stands for an explanation written by another component. -/
def detail : String := "<detail>"

inductive Failure where
  | explicitPortInRange (port : UInt16)
  | tooManyPortMappings (count : Nat)
  | invalidPort (port : UInt32)
  | portPoolExhausted
  /-- The lock of the pool file could not be opened. -/
  | openLock
  /-- The pool file could not be read. -/
  | decodeState
  /-- The pool file could not be replaced. -/
  | encodeState
  | invalidProtocol (code : UInt8)
  | host (fault : HostFault)
  | commandFailed (command container : String) (exitCode : Int)
  | commandTimeout (command container : String) (milliseconds : Nat)
  | interfaceNotReady (adapter : String)
  | invalidEndpointAllocators (endpointId : String) (allocators : List Allocator)
  | missingEndpointAddress (endpointId : String)
  | firewallRuleNotGenerated (rule : String)
  | networkNameConflict (name : String) (subnets : List Subnet)
  | encodeOutput
  | combined (causes : List Failure)

namespace Allocator

def listing (allocator : Allocator) : String :=
  "Allocator \x7b allocator_type: " ++ Decimal.text allocator.kind.toNat
    ++ ", compartment_id: " ++ Decimal.text allocator.compartment.toNat
    ++ ", endpoint_port_guid: " ++ Text.quoted allocator.portGuid ++ " \x7d"

end Allocator

namespace Failure

/-- A command in the container for which it was run. -/
def commandText (command container : String) : String :=
  "running '" ++ command ++ "' in " ++ container

/-- The texts of a list, joined. -/
def joined : List String → String := Pieces.join ", "

def message : Failure → String
  | explicitPortInRange port =>
      "cannot specify port from allocation range: " ++ Decimal.text port.toNat
  | tooManyPortMappings count => "invalid number of port mappings: " ++ Decimal.text count
  | invalidPort port => "invalid port: " ++ Decimal.text port.toNat
  | portPoolExhausted => "port pool exhausted"
  | openLock => "open lock: " ++ detail
  | decodeState => "decoding state file: " ++ detail
  | encodeState => "encode and overwrite: " ++ detail
  | invalidProtocol code => "invalid protocol: " ++ Decimal.text code.toNat
  | host fault => fault.message
  | commandFailed command container exitCode =>
      commandText command container ++ " failed: exit code " ++ toString exitCode
  | commandTimeout command container milliseconds =>
      commandText command container ++ " timed out after " ++ Duration.text milliseconds
  | interfaceNotReady adapter => "container interface " ++ adapter ++ " not created in time"
  | invalidEndpointAllocators endpointId allocators =>
      "invalid endpoint " ++ endpointId ++ " allocators: ["
        ++ joined (allocators.map Allocator.listing) ++ "]"
  | missingEndpointAddress endpointId => "endpoint " ++ endpointId ++ " has no IP address"
  | firewallRuleNotGenerated rule => "firewall rule " ++ rule ++ " not generated in time"
  | networkNameConflict name _ => "network name already exists with different subnets: " ++ name
  | encodeOutput => "encoding output: " ++ detail
  | combined causes => joined (causes.map message)

def code : Failure → String
  | explicitPortInRange _ => "sluice::ports::explicit_in_range"
  | tooManyPortMappings _ => "sluice::rules::too_many_mappings"
  | invalidPort _ => "sluice::ports::invalid"
  | portPoolExhausted => "sluice::ports::exhausted"
  | openLock => "sluice::ports::lock"
  | decodeState => "sluice::ports::decode"
  | encodeState => "sluice::ports::encode"
  | invalidProtocol _ => "sluice::rules::invalid_protocol"
  | host _ => "sluice::host"
  | commandFailed .. => "sluice::container::command_failed"
  | commandTimeout .. => "sluice::container::command_timeout"
  | interfaceNotReady _ => "sluice::endpoint::not_ready"
  | invalidEndpointAllocators .. => "sluice::endpoint::invalid_allocators"
  | missingEndpointAddress _ => "sluice::endpoint::no_address"
  | firewallRuleNotGenerated _ => "sluice::endpoint::rule_not_generated"
  | networkNameConflict .. => "sluice::network::name_conflict"
  | encodeOutput => "sluice::output"
  | combined _ => "sluice::combined"

def help? : Failure → Option String
  | explicitPortInRange _ =>
      "Pick a host port outside the configured start_port/total_ports range, or use 0"
  | tooManyPortMappings _ => "A container accepts at most two inbound port mappings"
  | networkNameConflict .. =>
      "Delete the existing network or change network_name in the config"
  | _ => none

/-- The failures of independent steps as one result. -/
def combine (causes : Causes Failure) : Except Failure Unit :=
  causes.result fun several => combined several.toList

end Failure

inductive SetupFailure where
  | invalidHandle (handle : String)
  | io
  | serialization
  | unsupported (feature : String)
  | config
  deriving DecidableEq

namespace SetupFailure

def message : SetupFailure → String
  | invalidHandle handle => "Invalid container handle: " ++ handle
  | io => "I/O error: " ++ detail
  | serialization => "Serialization error: " ++ detail
  | unsupported feature => "Feature not supported: " ++ feature
  | config => "Configuration error: Failed to parse JSON: " ++ detail

def code : SetupFailure → String
  | invalidHandle _ => "sluice::handle::invalid"
  | io => "sluice::io"
  | serialization => "sluice::serialization"
  | unsupported _ => "sluice::unsupported"
  | config => "sluice::config"

def help? : SetupFailure → Option String
  | invalidHandle _ =>
      "Handles must be alphanumeric with hyphens, underscores and dots, 1-128 characters"
  | _ => none

end SetupFailure

end ContainerNetwork
