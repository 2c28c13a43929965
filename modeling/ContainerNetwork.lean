import ContainerNetwork.Address.Basic
import ContainerNetwork.Address.Block
import ContainerNetwork.Causes
import ContainerNetwork.CommandLine.Arguments
import ContainerNetwork.CommandLine.Execution
import ContainerNetwork.ContainerCommand
import ContainerNetwork.ContainerLifecycle
import ContainerNetwork.EndpointLifecycle
import ContainerNetwork.Enforcement.Basic
import ContainerNetwork.Enforcement.Firewall
import ContainerNetwork.Enforcement.PolicyEngine
import ContainerNetwork.Enforcement.Rules
import ContainerNetwork.Failure
import ContainerNetwork.FileAction
import ContainerNetwork.FileTree
import ContainerNetwork.Handle
import ContainerNetwork.Host.Call
import ContainerNetwork.Host.Endpoint
import ContainerNetwork.Host.Fault
import ContainerNetwork.Host.FirewallRule
import ContainerNetwork.Host.Network
import ContainerNetwork.Host.Policy.AclEntry
import ContainerNetwork.Host.Policy.BandwidthLimit
import ContainerNetwork.Host.Policy.PortForward
import ContainerNetwork.Host.Policy.Tagged
import ContainerNetwork.Host.Traffic
import ContainerNetwork.IpProtocol
import ContainerNetwork.Json.Kept
import ContainerNetwork.Json.Reader
import ContainerNetwork.Json.Record
import ContainerNetwork.Json.Token
import ContainerNetwork.Json.Value
import ContainerNetwork.Json.Wire
import ContainerNetwork.Json.Writer
import ContainerNetwork.Main
import ContainerNetwork.Path
import ContainerNetwork.Plan
import ContainerNetwork.PortPool.Basic
import ContainerNetwork.PortPool.File
import ContainerNetwork.PortPool.ManagedRange
import ContainerNetwork.Program
import ContainerNetwork.Proofs.Address.Cover
import ContainerNetwork.Proofs.Address.Text
import ContainerNetwork.Proofs.Enforcement.Entries
import ContainerNetwork.Proofs.Enforcement.Outbound
import ContainerNetwork.Proofs.Enforcement.RemoteAddresses
import ContainerNetwork.Proofs.Except
import ContainerNetwork.Proofs.FileTree.Actions
import ContainerNetwork.Proofs.FileTree.Interruption
import ContainerNetwork.Proofs.FileTree.Location
import ContainerNetwork.Proofs.FileTree.Sibling
import ContainerNetwork.Proofs.Host.SimulatedStore
import ContainerNetwork.Proofs.Host.Store
import ContainerNetwork.Proofs.Json.Members
import ContainerNetwork.Proofs.Json.RoundTrip
import ContainerNetwork.Proofs.Json.TokenText
import ContainerNetwork.Proofs.Json.TokenTree
import ContainerNetwork.Proofs.Lifecycle.FailedUp
import ContainerNetwork.Proofs.Lifecycle.FirstFailure
import ContainerNetwork.Proofs.Lifecycle.Residue
import ContainerNetwork.Proofs.Lifecycle.WayUp
import ContainerNetwork.Proofs.Plan
import ContainerNetwork.Proofs.PortPool.Assignment
import ContainerNetwork.Proofs.PortPool.Content
import ContainerNetwork.Proofs.PortPool.Exclusion
import ContainerNetwork.Proofs.PortPool.Update
import ContainerNetwork.Proofs.SortedMap
import ContainerNetwork.Proofs.Text.Listed
import ContainerNetwork.Request
import ContainerNetwork.Rule
import ContainerNetwork.Settings
import ContainerNetwork.SharedNetwork
import ContainerNetwork.SimulatedHost
import ContainerNetwork.SortedMap
import ContainerNetwork.StateDirectory
import ContainerNetwork.Text.Blank
import ContainerNetwork.Text.Decimal
import ContainerNetwork.Text.Duration
import ContainerNetwork.Text.Pieces
import ContainerNetwork.Text.Printable
import ContainerNetwork.Text.Quoted
import ContainerNetwork.Proofs.Json.Kept
import ContainerNetwork.Proofs.Wire.HostRecords
import ContainerNetwork.Proofs.PortPool.Atomicity
import ContainerNetwork.Proofs.PortPool.Refinement
import ContainerNetwork.Proofs.Lifecycle.DefaultDeny
import ContainerNetwork.Proofs.History
import ContainerNetwork.Proofs.Lifecycle.Calls
import ContainerNetwork.Proofs.Lifecycle.Milestones
import ContainerNetwork.Proofs.Lifecycle.Order
import ContainerNetwork.Proofs.Lifecycle.Isolation
import ContainerNetwork.Proofs.Host.PoolService
import ContainerNetwork.Proofs.Host.Obliging
import ContainerNetwork.Proofs.Lifecycle.Teardown
import ContainerNetwork.Proofs.Lifecycle.Backends
import ContainerNetwork.Proofs.Host.Coherent
import ContainerNetwork.Proofs.Mirror
import ContainerNetwork.Proofs.Address.Exact
import ContainerNetwork.Proofs.Address.Minimal
import ContainerNetwork.Proofs.Address.Words
import ContainerNetwork.Proofs.Failure
import ContainerNetwork.Proofs.Json.Fields
import ContainerNetwork.Proofs.Json.Rearranged
import ContainerNetwork.Proofs.Lifecycle.TeardownFailures
import ContainerNetwork.Proofs.Wire.Fieldwise
import ContainerNetwork.Proofs.Json.ReadText
import ContainerNetwork.Proofs.PortPool.Exhaustion
import ContainerNetwork.Proofs.Lifecycle.FailedDown
import ContainerNetwork.Proofs.Lifecycle.Creation
import ContainerNetwork.Proofs.Lifecycle.Report
import ContainerNetwork.Proofs.Address.Widths
import ContainerNetwork.Proofs.PortPool.Groups
import ContainerNetwork.Proofs.Lifecycle.PortZero
import ContainerNetwork.Proofs.PortPool.Reconfiguration
import ContainerNetwork.Proofs.Lifecycle.GeneratedRule
import ContainerNetwork.Proofs.PortPool.Interruption
import ContainerNetwork.Proofs.Host.NetworkStore
import ContainerNetwork.Proofs.Lifecycle.SharedNetwork
import ContainerNetwork.Proofs.TeardownTree
import ContainerNetwork.Proofs.Enforcement.RangeLists
