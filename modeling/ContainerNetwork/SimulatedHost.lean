import ContainerNetwork.Plan
import ContainerNetwork.PortPool.File

/-!
# A simulated host

A host to try plans on.  It keeps networks, endpoints, firewall rules, adapters and the pool file,
has a clock that only waiting moves, and logs the calls it gets.  How it behaves beyond that is
scripted: which calls fail, when adapters and rules appear, how commands end.
-/

namespace ContainerNetwork

/-- Something that shows only once it was asked for a number of times, or never. -/
structure Reveal where
  after : Option Nat := some 0
  asked : Nat := 0
  deriving DecidableEq

namespace Reveal

def isVisible (reveal : Reveal) : Bool := reveal.after.any (· ≤ reveal.asked)

/-- One more question was asked. -/
def ask (reveal : Reveal) : Reveal := { reveal with asked := reveal.asked + 1 }

end Reveal

structure SimulatedHost where
  networks : List Network := []
  createdNetworks : Nat := 0
  endpoints : List Endpoint := []
  createdEndpoints : Nat := 0
  /-- The address of endpoints that are created. -/
  endpointAddress : Option Address := some (.ofOctets 172 30 0 2)
  /-- The allocators of endpoints that are attached. -/
  allocators : List Allocator := []
  rules : List FirewallRule := []
  /-- The names of rules that the host made by itself. -/
  generatedRules : List String := []
  generatedVisible : Reveal := {}
  adaptersVisible : Reveal := {}
  /-- The MTU of adapters without one of their own. -/
  defaultMtu : UInt32 := 1500
  mtus : SortedMap String UInt32 := .empty
  /-- The exit codes of the next commands; those after them end with zero. -/
  exitCodes : List Int := []
  /-- The milliseconds that the next commands take; those after them take none. -/
  execDelays : List Nat := []
  /-- For each kind of call whether its next calls fail. -/
  faults : CallKind → List (Option HostFault) := fun _ => []
  files : FileTree := {}
  clock : Nat := 0
  /-- The calls and when they came, last first. -/
  log : List (Nat × Call) := []

namespace SimulatedHost

def poolPlace : FilePlace := ⟨[], "ports.json"⟩

def record (host : SimulatedHost) (call : Call) : SimulatedHost :=
  { host with log := (host.clock, call) :: host.log }

/-- Takes the fault scripted for the next call of a kind. -/
def takeFault (host : SimulatedHost) (kind : CallKind) : Option HostFault × SimulatedHost :=
  match host.faults kind with
  | [] => (none, host)
  | fault :: rest =>
      (fault,
        { host with faults := fun other => if other = kind then rest else host.faults other })

/-- Logs a call and answers it by `act`, unless it is scripted to fail. -/
def answer {α : Type} (host : SimulatedHost) (call : Call)
    (act : SimulatedHost → Except HostFault α × SimulatedHost) :
    Except HostFault α × SimulatedHost :=
  match (host.record call).takeFault call.kind with
  | (some fault, host) => (.error fault, host)
  | (none, host) => act host

/-- Logs a call and answers it by an action on the pool file, unless it is scripted to fail. -/
def answerPool {α : Type} (host : SimulatedHost) (call : Call) (action : FileAction Failure α) :
    Except Failure α × SimulatedHost :=
  match (host.record call).takeFault call.kind with
  | (some fault, host) => (.error (.host fault), host)
  | (none, host) =>
      let (result, files) := action.runOn host.files
      (result, { host with files })

/-- Runs a command; one that takes longer than its timeout is given up, with its fault and exit
code left to the next. -/
def runCommand (host : SimulatedHost) (timeout : Nat) :
    Except HostFault CommandEnd × SimulatedHost :=
  let delay := host.execDelays.headD 0
  let host := { host with execDelays := host.execDelays.tail }
  if timeout < delay then (.ok .timedOut, { host with clock := host.clock + timeout })
  else
    match { host with clock := host.clock + delay }.takeFault .exec with
    | (some fault, host) => (.error fault, host)
    | (none, host) =>
        (.ok (.exited (host.exitCodes.headD 0)), { host with exitCodes := host.exitCodes.tail })

def orMissing {α : Type} (fault : HostFault) : Option α → Except HostFault α
  | some found => .ok found
  | none => .error fault

/-- Replaces the first item that satisfies a predicate. -/
def replaceFirst {α : Type} (select : α → Bool) (change : α → α) : List α → List α
  | [] => []
  | item :: rest =>
      if select item then change item :: rest else item :: replaceFirst select change rest

def respond (range : ManagedRange) :
    (call : Call) → SimulatedHost → call.Answer × SimulatedHost
  | .networkByName name, host => host.answer (.networkByName name) fun host =>
      (orMissing (.networkNotFound name) (host.networks.find? (·.name = name)), host)
  | .createNetwork network, host => host.answer (.createNetwork network) fun host =>
      let count := host.createdNetworks + 1
      let network := { network with id := "net-" ++ Decimal.text count }
      (.ok network,
        { host with networks := host.networks ++ [network], createdNetworks := count })
  | .deleteNetwork network, host => host.answer (.deleteNetwork network) fun host =>
      (.ok (), { host with networks := host.networks.filter (·.id ≠ network.id) })
  | .createEndpoint endpoint, host => host.answer (.createEndpoint endpoint) fun host =>
      let count := host.createdEndpoints + 1
      let endpoint :=
        { endpoint with id := "ep-" ++ Decimal.text count, address := host.endpointAddress }
      (.ok endpoint,
        { host with endpoints := host.endpoints ++ [endpoint], createdEndpoints := count })
  | .updateEndpoint endpoint, host => host.answer (.updateEndpoint endpoint) fun host =>
      if host.endpoints.any (·.id = endpoint.id) then
        (.ok endpoint,
          { host with
            endpoints := replaceFirst (·.id = endpoint.id) (fun _ => endpoint) host.endpoints })
      else (.error (.endpointNotFound endpoint.id), host)
  | .deleteEndpoint endpoint, host => host.answer (.deleteEndpoint endpoint) fun host =>
      (.ok (), { host with endpoints := host.endpoints.filter (·.id ≠ endpoint.id) })
  | .endpointById id, host => host.answer (.endpointById id) fun host =>
      (orMissing (.endpointNotFound id) (host.endpoints.find? (·.id = id)), host)
  | .endpointByName name, host => host.answer (.endpointByName name) fun host =>
      (orMissing (.endpointNotFound name) (host.endpoints.find? (·.name = name)), host)
  | .attachEndpoint container id, host => host.answer (.attachEndpoint container id) fun host =>
      let attach (endpoint : Endpoint) : Endpoint :=
        { endpoint with resources := { allocators := host.allocators } }
      (.ok (), { host with endpoints := replaceFirst (·.id = id) attach host.endpoints })
  | .detachEndpoint container id, host => host.answer (.detachEndpoint container id) fun host =>
      (.ok (), host)
  | .createRule rule, host => host.answer (.createRule rule) fun host =>
      (.ok (), { host with rules := host.rules ++ [rule] })
  | .deleteRule name, host => host.answer (.deleteRule name) fun host =>
      (.ok (),
        { host with
          rules := host.rules.filter (·.name ≠ name)
          generatedRules := host.generatedRules.filter (· ≠ name) })
  | .ruleExists name, host => host.answer (.ruleExists name) fun host =>
      let generated := host.generatedVisible.isVisible && host.generatedRules.contains name
      (.ok (host.rules.any (·.name = name) || generated),
        { host with generatedVisible := host.generatedVisible.ask })
  | .exec container command timeout, host =>
      (host.record (.exec container command timeout)).runCommand timeout
  | .adapterExists adapter, host => host.answer (.adapterExists adapter) fun host =>
      (.ok host.adaptersVisible.isVisible,
        { host with adaptersVisible := host.adaptersVisible.ask })
  | .adapterMtu adapter, host => host.answer (.adapterMtu adapter) fun host =>
      (.ok ((host.mtus.get? adapter).getD host.defaultMtu), host)
  | .setAdapterMtu adapter mtu, host => host.answer (.setAdapterMtu adapter mtu) fun host =>
      (.ok (), { host with mtus := host.mtus.insert adapter mtu })
  | .allocatePort handle port, host =>
      host.answerPool (.allocatePort handle port) (PortPool.allocate poolPlace range handle port)
  | .releaseAllPorts handle, host =>
      host.answerPool (.releaseAllPorts handle) (PortPool.releaseAll poolPlace handle)
  | .sleep milliseconds, host => ((), { host with clock := host.clock + milliseconds })

/-- The host with its clock set back and nothing logged. -/
def rewind (host : SimulatedHost) : SimulatedHost := { host with clock := 0, log := [] }

/-- Runs an operation on the host; `range` are the ports its pool gives out. -/
def run {α : Type} (host : SimulatedHost) (range : ManagedRange) (operation : Operation α) :
    Except Failure α × SimulatedHost :=
  Program.run (respond range) (ExceptT.run operation) host.rewind

end SimulatedHost

end ContainerNetwork
