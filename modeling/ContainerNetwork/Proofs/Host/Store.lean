import ContainerNetwork.Handle
import ContainerNetwork.Host.Call
import ContainerNetwork.Proofs.PortPool.Assignment
import Mathlib.Data.Multiset.Filter

/-!
# What a host stores

A host is any function that answers calls and changes a state.  It is faithful if its endpoints,
its firewall rules and its pool file change as the calls say: a call that fails changes nothing,
a new endpoint has an identifier of its own, and endpoints are found as they are stored.  What the
host does beyond that, such as rules that it makes by itself, is left open.
-/

namespace ContainerNetwork

/-- What a host keeps for its containers. -/
structure Store where
  endpoints : Multiset Endpoint
  rules : Multiset FirewallRule
  files : FileTree

namespace Store

/-- The firewall rules that are named after handles. -/
def handleRules (store : Store) : Multiset FirewallRule :=
  store.rules.filter fun rule => Handle.IsValid rule.name

/-- The store with one endpoint in place of another. -/
def replace (store : Store) (old new : Endpoint) : Store :=
  { store with endpoints := new ::ₘ store.endpoints.erase old }

/-- Stores that keep the same for their containers. -/
structure Agrees (place : FilePlace) (left right : Store) : Prop where
  endpoints : left.endpoints = right.endpoints
  handleRules : left.handleRules = right.handleRules
  files : PortPool.SameFile place left.files right.files

/-- What may become of a store by an answer that an action on the pool file gives.  The rest of the
file tree may have changed before, and the use of the pool may fail for other reasons. -/
structure UsesPool {α : Type} (place : FilePlace) (action : FileAction Failure α) (before : Store)
    (answer : Except Failure α) (after : Store) : Prop where
  endpoints : after.endpoints = before.endpoints
  handleRules : after.handleRules = before.handleRules
  files : ((∃ failure, answer = .error failure) ∧
      PortPool.SameFile place after.files before.files) ∨
    ∃ tree changed, PortPool.SameFile place tree before.files ∧
      action.runOn tree = (answer, changed) ∧ PortPool.SameFile place after.files changed

/-- What a faithful host may answer to a call, and what may become of its store. -/
def Admits (place : FilePlace) (range : ManagedRange) :
    (call : Call) → Store → call.Answer → Store → Prop
  | .createEndpoint asked, before, .ok created, after =>
      created.name = asked.name ∧ (∀ endpoint ∈ before.endpoints, endpoint.id ≠ created.id) ∧
        Agrees place after { before with endpoints := created ::ₘ before.endpoints }
  | .updateEndpoint asked, before, .ok updated, after =>
      updated.id = asked.id ∧ updated.name = asked.name ∧
        ∃ old ∈ before.endpoints, old.id = asked.id ∧
          Agrees place after (before.replace old updated)
  | .deleteEndpoint endpoint, before, .ok (), after =>
      Agrees place after
        { before with endpoints := before.endpoints.filter fun stored => stored.id ≠ endpoint.id }
  | .attachEndpoint _ id, before, .ok (), after | .detachEndpoint _ id, before, .ok (), after =>
      Agrees place after before ∨
        ∃ old ∈ before.endpoints, old.id = id ∧
          ∃ changed : Endpoint, changed.id = old.id ∧ changed.name = old.name ∧
            Agrees place after (before.replace old changed)
  | .endpointById id, before, .ok endpoint, after =>
      endpoint ∈ before.endpoints ∧ endpoint.id = id ∧ Agrees place after before
  | .endpointByName name, before, .ok endpoint, after =>
      endpoint ∈ before.endpoints ∧ endpoint.name = name ∧ Agrees place after before
  | .createRule rule, before, .ok (), after =>
      Agrees place after { before with rules := rule ::ₘ before.rules }
  | .deleteRule name, before, .ok (), after =>
      Agrees place after { before with rules := before.rules.filter fun rule => rule.name ≠ name }
  | .allocatePort handle port, before, answer, after =>
      UsesPool place (PortPool.allocate place range handle port) before answer after
  | .releaseAllPorts handle, before, answer, after =>
      UsesPool place (PortPool.releaseAll place handle) before answer after
  | .createNetwork _, _, _, _ | .deleteNetwork _, _, _, _ => True
  | _, before, _, after => Agrees place after before

end Store

/-- A host whose stores change only as its answers say, from every sound state on. -/
structure Faithful {σ : Type} (place : FilePlace) (range : ManagedRange)
    (respond : (call : Call) → σ → call.Answer × σ) (store : σ → Store) (sound : σ → Prop) :
    Prop where
  sound_respond : ∀ call state, sound state → sound (respond call state).2
  admits : ∀ call state, sound state →
    (store state).Admits place range call (respond call state).1 (store (respond call state).2)

end ContainerNetwork
