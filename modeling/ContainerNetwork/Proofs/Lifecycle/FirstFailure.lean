import ContainerNetwork.Proofs.Lifecycle.Creation
import ContainerNetwork.Proofs.Lifecycle.HostPorts

/-!
# The first failing step

A container is brought up step by step until one fails.  The failure is that of the last answer of
the host, or the host did all it was asked and the container cannot be brought up nevertheless.  All
steps before it passed, and after it there are only calls that take things back.
-/

namespace ContainerNetwork

open Operation

/-- The failure of a result, if it is one. -/
def failureOf? {ε α : Type} : Except ε α → Option ε
  | .ok _ => none
  | .error failure => some failure

namespace Event

/-- The failure of the step that asked, where the answer makes it fail. -/
def failure? : Event → Option Failure
  | ⟨.exec container command timeout, answer⟩ =>
      match answer with
      | .error fault => some (.host fault)
      | .ok .timedOut => some (.commandTimeout command container timeout)
      | .ok (.exited code) =>
          if code = 0 then none else some (.commandFailed command container code)
  | ⟨.allocatePort _ _, answer⟩ | ⟨.releaseAllPorts _, answer⟩ => failureOf? answer
  | ⟨.sleep _, _⟩ => none
  | ⟨.networkByName _, answer⟩ | ⟨.createNetwork _, answer⟩ | ⟨.deleteNetwork _, answer⟩
  | ⟨.createEndpoint _, answer⟩ | ⟨.updateEndpoint _, answer⟩ | ⟨.deleteEndpoint _, answer⟩
  | ⟨.endpointById _, answer⟩ | ⟨.endpointByName _, answer⟩ | ⟨.attachEndpoint _ _, answer⟩
  | ⟨.detachEndpoint _ _, answer⟩ | ⟨.createRule _, answer⟩ | ⟨.deleteRule _, answer⟩
  | ⟨.ruleExists _, answer⟩ | ⟨.adapterExists _, answer⟩ | ⟨.adapterMtu _, answer⟩
  | ⟨.setAdapterMtu _ _, answer⟩ => (failureOf? answer).map .host

/-- The steps go on after such an answer: it makes none of them fail, or the host failed in passing
to create an endpoint, which is tried again. -/
def Passes (event : Event) : Prop :=
  event.failure? = none ∨ ∃ asked, event = ⟨.createEndpoint asked, .error .unspecified⟩

end Event

/-- Steps that were taken until one failed: with its answer, or for a reason of its own. -/
inductive Stops (rejects : List Event → Failure → Prop) : List Event → Failure → Prop
  | refused {passed : List Event} {event : Event} {failure : Failure}
      (hpassed : ∀ earlier ∈ passed, earlier.Passes) (hfailure : event.failure? = some failure) :
      Stops rejects (passed ++ [event]) failure
  | rejected {passed : List Event} {failure : Failure}
      (hpassed : ∀ earlier ∈ passed, earlier.Passes) (hrejects : rejects passed failure) :
      Stops rejects passed failure

namespace Stops

variable {rejects later : List Event → Failure → Prop} {before log : List Event} {event : Event}
variable {failure : Failure}

theorem single (hfailure : event.failure? = some failure) : Stops rejects [event] failure :=
  (refused (List.forall_mem_nil _) hfailure : Stops rejects ([] ++ [event]) failure)

theorem imp (hstops : Stops later log failure)
    (hrejects : ∀ passed, later passed failure → rejects passed failure) :
    Stops rejects log failure := by
  cases hstops with
  | refused hpassed hfailure => exact .refused hpassed hfailure
  | rejected hpassed hlater => exact .rejected hpassed (hrejects _ hlater)

/-- Steps that passed before others of which one fails. -/
theorem after (hbefore : ∀ event ∈ before, event.Passes) (hstops : Stops later log failure)
    (hrejects : ∀ passed, later passed failure → rejects (before ++ passed) failure) :
    Stops rejects (before ++ log) failure := by
  cases hstops with
  | refused hpassed hfailure =>
      rw [← List.append_assoc]
      exact .refused (List.forall_mem_append.mpr ⟨hbefore, hpassed⟩) hfailure
  | rejected hpassed hlater =>
      exact .rejected (List.forall_mem_append.mpr ⟨hbefore, hpassed⟩) (hrejects _ hlater)

end Stops

/-! ## Operations that find something wrong by themselves -/

/-- A run that passes unless something is wrong, which is then its failure, or the host fails it. -/
def Ends {α : Type} (wrong : Option Failure) (log : List Event) : Except Failure α → Prop
  | .ok _ => wrong = none ∧ ∀ event ∈ log, event.Passes
  | .error failure => Stops (fun _ rejected => wrong = some rejected) log failure

namespace Ends

variable {α β : Type} {wrong other : Option Failure} {operation : Operation α}
variable {next : α → Operation β}

theorem pure (value : α) : Traces (Ends none) (Pure.pure value : Operation α) :=
  .pure ⟨rfl, List.forall_mem_nil _⟩

theorem throw (failure : Failure) :
    Traces (Ends (some failure)) (throw failure : Operation α) :=
  .throw (.rejected (List.forall_mem_nil _) rfl)

theorem bind (hoperation : Traces (Ends wrong) operation)
    (hnext : ∀ value, Traces (Ends other) (next value)) :
    Traces (Ends (wrong.or other)) (operation >>= next) := by
  apply Traces.bind hoperation
  · intro log failure hstops
    exact Stops.imp hstops fun _ hwrong => Option.or_eq_some_iff.mpr (.inl hwrong)
  · rintro log value ⟨hnone, hpassed⟩
    apply (hnext value).imp
    intro more result hends
    cases result with
    | ok last =>
        exact ⟨Option.or_eq_none_iff.mpr ⟨hnone, hends.1⟩,
          List.forall_mem_append.mpr ⟨hpassed, hends.2⟩⟩
    | error failure =>
        exact Stops.after hpassed hends fun _ hother =>
          Option.or_eq_some_iff.mpr (.inr ⟨hnone, hother⟩)

/-- Something may be wrong with the second of two operations only. -/
theorem bind_right (hoperation : Traces (Ends none) operation)
    (hnext : ∀ value, Traces (Ends wrong) (next value)) :
    Traces (Ends wrong) (operation >>= next) := by
  rw [← Option.none_or (o := wrong)]
  exact bind hoperation hnext

/-- Something may be wrong with the first of two operations only. -/
theorem bind_left (hoperation : Traces (Ends wrong) operation)
    (hnext : ∀ value, Traces (Ends none) (next value)) :
    Traces (Ends wrong) (operation >>= next) := by
  rw [← Option.or_none (o := wrong)]
  exact bind hoperation hnext

theorem discard (hoperation : Traces (Ends wrong) operation) :
    Traces (Ends wrong) (discard operation) := by
  rw [Functor.discard, LawfulFunctor.map_const, Function.comp, ← bind_pure_comp]
  exact bind_left hoperation fun _ => pure _

theorem mapM {wrong : α → Option Failure} (hnext : ∀ item, Traces (Ends (wrong item)) (next item))
    (items : List α) : Traces (Ends (items.findSome? wrong)) (items.mapM next) := by
  induction items with
  | nil => exact pure []
  | cons item rest ih =>
      have hcons : (item :: rest).findSome? wrong = (wrong item).or (rest.findSome? wrong) := by
        rw [List.findSome?_cons]
        cases wrong item <;> rfl
      rw [List.mapM_cons, hcons]
      exact bind (hnext item) fun _ => bind_left ih fun _ => pure _

theorem ofExcept (result : Except Failure α) :
    Traces (Ends (failureOf? result)) (Operation.ofExcept result) := by
  cases result with
  | ok value => exact pure value
  | error failure => exact throw failure

/-- A call fails the operation that makes it with what its answer is to the step. -/
theorem host {plan : Plan (Except HostFault α)} {event : Except HostFault α → Event}
    (hplan : plan.Traces fun log answer => log = [event answer])
    (hevent : ∀ answer, (event answer).failure? = (failureOf? answer).map .host) :
    Traces (Ends none) (host plan) := by
  apply Traces.host hplan
  rintro _ answer rfl
  cases answer with
  | ok value => exact ⟨rfl, List.forall_mem_singleton.mpr (.inl (hevent _))⟩
  | error fault => exact .single (hevent _)

end Ends

/-! ## Putting the rules in force -/

/-- A number that is no port. -/
def InboundRule.misfit? (number : UInt32) : Option UInt32 :=
  if 65536 ≤ number.toNat then some number else none

/-- The first number of an inbound rule that is no port. -/
def InboundRule.firstMisfit? (rule : InboundRule) : Option UInt32 :=
  (misfit? rule.containerPort).or (misfit? rule.hostPort)

/-- The code of a protocol that is not known. -/
def Protocol.unknown? : Protocol → Option UInt8
  | unknown code _ => some code
  | _ => none

theorem ContainerCommand.run_ends (container : String) (arguments : List String) (timeout : Nat) :
    Traces (Ends none) (run container arguments timeout) := by
  let command := "netsh " ++ Pieces.join " " arguments
  apply Traces.host_bind (Plan.traces_call (.exec container command timeout))
  · rintro _ fault rfl
    exact .single rfl
  rintro _ ending rfl
  cases ending with
  | timedOut => exact .throw (.single rfl)
  | exited code =>
      dsimp only
      split
      case isTrue hfailed => exact .throw (.single (if_neg hfailed))
      case isFalse hdone =>
        exact .pure ⟨rfl, List.forall_mem_singleton.mpr (.inl (if_pos (not_not.mp hdone)))⟩

theorem InboundRule.port_ends (number : UInt32) :
    Traces (Ends ((misfit? number).map .invalidPort)) (port number) := by
  rw [port, misfit?]
  by_cases hfits : number.toNat < UInt16.size
  · rw [if_pos hfits, if_neg (Nat.not_le.mpr hfits)]
    exact Ends.pure _
  · rw [if_neg hfits, if_pos (Nat.not_lt.mp hfits)]
    exact Ends.throw _

theorem allocatePort_ends (container : String) (port : UInt16) :
    Traces (Ends none) (pool (.call (.allocatePort container port))) := by
  constructor
  intro σ respond state
  rw [events_pool, runOn_pool, Plan.log_call]
  change Ends none _ (respond (.allocatePort container port) state).1
  cases (respond (.allocatePort container port) state).1 with
  | ok allocated => exact ⟨rfl, List.forall_mem_singleton.mpr (.inl rfl)⟩
  | error failure => exact .single rfl

theorem InboundRule.reserveHostPort_ends (rule : InboundRule) (container : String) :
    Traces (Ends ((misfit? rule.hostPort).map .invalidPort))
      (rule.reserveHostPort container) :=
  Ends.bind_left (port_ends rule.hostPort) fun _ => allocatePort_ends container _

namespace Enforcement

theorem letIn_ends (enforcement : Enforcement) (container : String) (rule : InboundRule)
    (address : Address) (containerPort : UInt16) :
    Traces (Ends none) (enforcement.letIn container rule address containerPort) := by
  rw [letIn]
  split
  · apply Ends.bind_right (Ends.host (Plan.traces_call (.createRule _)) fun _ => rfl)
    exact fun _ => ContainerCommand.run_ends container _ _
  · exact ContainerCommand.run_ends container _ _

theorem forward_ends (enforcement : Enforcement) (container : String) (rule : InboundRule)
    (address : Address) :
    Traces (Ends (rule.firstMisfit?.map .invalidPort))
      (enforcement.forward container rule address) := by
  rw [forward_eq, InboundRule.firstMisfit?, Option.map_or]
  apply Ends.bind (InboundRule.port_ends rule.containerPort)
  intro containerPort
  apply Ends.bind_left (rule.reserveHostPort_ends container)
  intro hostPort
  apply Ends.bind_right (enforcement.letIn_ends container rule address containerPort)
  exact fun _ => Ends.pure _

theorem permit_ends (enforcement : Enforcement) (container : String) (rule : OutboundRule)
    (address : Address) :
    Traces (Ends (rule.protocol.unknown?.map .invalidProtocol))
      (enforcement.permit container rule address) := by
  cases enforcement with
  | policyEngine =>
      have hentry : failureOf? ((PolicyEngine.outboundEntry rule).map some) =
          rule.protocol.unknown?.map .invalidProtocol := by
        rw [PolicyEngine.outboundEntry]
        cases rule.protocol <;> rfl
      rw [← hentry]
      exact Ends.ofExcept _
  | firewall =>
      have hrule : failureOf? (Firewall.outboundRule container rule address) =
          rule.protocol.unknown?.map .invalidProtocol := by
        rw [Firewall.outboundRule]
        cases rule.protocol <;> rfl
      rw [← hrule]
      apply Ends.bind_left (Ends.ofExcept _)
      intro created
      apply Ends.bind_right (Ends.host (Plan.traces_call (.createRule created)) fun _ => rfl)
      exact fun _ => Ends.pure _

end Enforcement

namespace EndpointLifecycle

theorem applyPolicies_ends (settings : Settings) (endpoint : Endpoint) (nat : List PortForward)
    (acl : List AclEntry) : Traces (Ends none) (applyPolicies settings endpoint nat acl) :=
  Ends.host (Plan.traces_call (.updateEndpoint _)) fun _ => rfl

theorem setMtu_ends (settings : Settings) (container : String) :
    Traces (Ends none) (setMtu settings container) := by
  have hset (mtu : UInt32) : Traces (Ends none) (do
      Operation.host (.call (.setAdapterMtu (adapterOf container) mtu))
      return mtu) :=
    Ends.bind_right (Ends.host (Plan.traces_call (.setAdapterMtu _ mtu)) fun _ => rfl)
      fun _ => Ends.pure _
  rw [setMtu]
  split
  · exact Ends.bind_right (Ends.host (Plan.traces_call (.adapterMtu _)) fun _ => rfl) hset
  · exact hset settings.mtu

end EndpointLifecycle

namespace ContainerLifecycle

/-- What is wrong with a request, or with the endpoint on which it is to be put in force. -/
def wrong? (request : Request) (endpoint : Endpoint) : Option Failure :=
  if endpoint.address = none then some (.missingEndpointAddress endpoint.id)
  else ((request.inbound.findSome? InboundRule.firstMisfit?).map .invalidPort).or
    ((request.outbound.findSome? (·.protocol.unknown?)).map .invalidProtocol)

theorem install_ends (settings : Settings) (container : String) (request : Request)
    (endpoint : Endpoint) :
    Traces (Ends (wrong? request endpoint)) (install settings container request endpoint) := by
  rw [install, wrong?]
  cases haddress : endpoint.address with
  | none => exact Ends.throw _
  | some address =>
      rw [if_neg (Option.some_ne_none address), List.map_findSome?, List.map_findSome?]
      apply Ends.bind (Ends.mapM (fun rule =>
        settings.enforcement.forward_ends container rule address) request.inbound)
      intro inbound
      apply Ends.bind_left (Ends.mapM (fun rule =>
        settings.enforcement.permit_ends container rule address) request.outbound)
      intro outbound
      apply Ends.bind_right
        (Ends.discard (EndpointLifecycle.applyPolicies_ends settings endpoint _ _))
      intro _
      apply Ends.bind_right (Ends.discard (EndpointLifecycle.setMtu_ends settings container))
      exact fun _ => Ends.pure _

end ContainerLifecycle

/-! ## Attaching an endpoint -/

/-- Why a container cannot be brought up though the host did all it was asked, known by what passed.
Rules are put in force in their order, so that the first that cannot be is the reason. -/
inductive Rejects (settings : Settings) (container : String) (request : Request)
    (passed : List Event) : Failure → Prop
  | unready (hlooks : EndpointLifecycle.misses ("vEthernet (" ++ container ++ ")") 10 <:+ passed) :
      Rejects settings container request passed
        (.interfaceNotReady ("vEthernet (" ++ container ++ ")"))
  | unusable {id : String} {attached : Endpoint} (hfirewall : settings.enforcement = .firewall)
      (hattached : [⟨.endpointById id, .ok attached⟩] <:+ passed) (hport : attached.port? = none) :
      Rejects settings container request passed
        (.invalidEndpointAllocators attached.id attached.resources.allocators)
  | ungenerated {id rule : String} {attached : Endpoint} {allocator : Allocator}
      (hfirewall : settings.enforcement = .firewall) (hport : attached.port? = some allocator)
      (hrule : rule = "Compartment " ++ Decimal.text allocator.compartment.toNat ++ " - " ++
        allocator.portGuid)
      (hlooks : ⟨.endpointById id, .ok attached⟩ :: EndpointLifecycle.unseen rule 0 3 <:+ passed) :
      Rejects settings container request passed (.firewallRuleNotGenerated rule)
  | unaddressed {id : String} {attached : Endpoint}
      (hattached : ⟨.endpointById id, .ok attached⟩ ∈ passed) (haddress : attached.address = none) :
      Rejects settings container request passed (.missingEndpointAddress attached.id)
  | misfit {number : UInt32}
      (hfirst : request.inbound.findSome? InboundRule.firstMisfit? = some number) :
      Rejects settings container request passed (.invalidPort number)
  | unknown {code : UInt8}
      (hfirst : request.outbound.findSome? (·.protocol.unknown?) = some code) :
      Rejects settings container request passed (.invalidProtocol code)

section Rejects

variable {settings : Settings} {container : String} {request : Request} {before passed : List Event}
variable {failure : Failure}

theorem Rejects.after (hrejects : Rejects settings container request passed failure) :
    Rejects settings container request (before ++ passed) failure := by
  cases hrejects with
  | unready hlooks => exact .unready (List.suffix_append_of_suffix hlooks)
  | unusable hfirewall hattached hport =>
      exact .unusable hfirewall (List.suffix_append_of_suffix hattached) hport
  | ungenerated hfirewall hport hrule hlooks =>
      exact .ungenerated hfirewall hport hrule (List.suffix_append_of_suffix hlooks)
  | unaddressed hattached haddress =>
      exact .unaddressed (List.mem_append_right _ hattached) haddress
  | misfit hfirst => exact .misfit hfirst
  | unknown hfirst => exact .unknown hfirst

/-- What is wrong with a request or with the endpoint that was attached for it. -/
theorem Rejects.of_wrong? {id : String} {attached : Endpoint}
    (hattached : ⟨.endpointById id, .ok attached⟩ ∈ passed)
    (hwrong : ContainerLifecycle.wrong? request attached = some failure) :
    Rejects settings container request passed failure := by
  rw [ContainerLifecycle.wrong?] at hwrong
  split at hwrong
  case isTrue haddress =>
    cases hwrong
    exact .unaddressed hattached haddress
  case isFalse =>
    rcases Option.or_eq_some_iff.mp hwrong with hmisfit | ⟨_, hunknown⟩
    · obtain ⟨number, hfirst, rfl⟩ := Option.map_eq_some_iff.mp hmisfit
      exact .misfit hfirst
    · obtain ⟨code, hfirst, rfl⟩ := Option.map_eq_some_iff.mp hunknown
      exact .unknown hfirst

end Rejects

namespace EndpointLifecycle

section Loops

variable {rejects : List Event → Failure → Prop} {asked created : Endpoint} {adapter rule : String}
variable {count wait : Nat} {log : List Event} {failure : Failure}

theorem passes_of_tried_again : ∀ event ∈
    List.replicate count (⟨.createEndpoint asked, .error .unspecified⟩ : Event), event.Passes :=
  fun _ hevent => .inr ⟨asked, List.eq_of_mem_replicate hevent⟩

theorem passes_misses : ∀ event ∈ misses adapter count, event.Passes := by
  intro event hevent
  obtain ⟨look, hlook, hmem⟩ := List.mem_flatten.mp hevent
  rw [List.eq_of_mem_replicate hlook] at hmem
  rcases List.mem_pair.mp hmem with rfl | rfl
  · exact .inl rfl
  · exact .inl rfl

theorem passes_unseen : ∀ event ∈ unseen rule wait count, event.Passes := by
  intro event hevent
  obtain ⟨lookup, _, hmem⟩ := List.mem_flatMap.mp hevent
  rcases List.mem_pair.mp hmem with rfl | rfl
  · exact .inl rfl
  · exact .inl rfl

theorem Tried.passes (htried : Tried asked count log (.ok created)) :
    ∀ event ∈ log, event.Passes := by
  cases htried with
  | created passed hpassed =>
      exact List.forall_mem_append.mpr
        ⟨passes_of_tried_again, List.forall_mem_singleton.mpr (.inl rfl)⟩

theorem Tried.stops (htried : Tried asked count log (.error failure)) :
    Stops rejects log failure := by
  cases htried with
  | refused passed hpassed hfault => exact .refused passes_of_tried_again rfl

theorem Awaited.passes (hawaited : Awaited adapter count log (.ok ())) :
    ∀ event ∈ log, event.Passes := by
  cases hawaited with
  | found missed hmissed =>
      exact List.forall_mem_append.mpr
        ⟨passes_misses, List.forall_mem_singleton.mpr (.inl rfl)⟩

theorem Awaited.stops (hawaited : Awaited adapter count log (.error failure)) :
    Stops (fun passed rejected => passed = misses adapter count ∧
      rejected = .interfaceNotReady adapter) log failure := by
  cases hawaited with
  | failed missed hmissed => exact .refused passes_misses rfl
  | missing => exact .rejected passes_misses ⟨rfl, rfl⟩

theorem passes_lookup (missed : Nat) : ∀ event ∈ unseen rule wait missed ++
    [.slept (wait + 200 * missed)], event.Passes :=
  List.forall_mem_append.mpr ⟨passes_unseen, List.forall_mem_singleton.mpr (.inl rfl)⟩

theorem passes_sighting (missed : Nat) : ∀ event ∈ unseen rule wait missed ++
    [.slept (wait + 200 * missed)] ++ [⟨.ruleExists rule, .ok true⟩], event.Passes :=
  List.forall_mem_append.mpr ⟨passes_lookup missed, List.forall_mem_singleton.mpr (.inl rfl)⟩

theorem Sought.passes {result : Except Failure Unit} (hsought : Sought rule wait count log result)
    (hresult : result = .ok ()) : ∀ event ∈ log, event.Passes := by
  cases hsought with
  | @found missed deleted hmissed =>
      obtain rfl := mapError_eq_ok hresult
      rw [List.append_cons, List.append_cons]
      exact List.forall_mem_append.mpr
        ⟨passes_sighting missed, List.forall_mem_singleton.mpr (.inl rfl)⟩
  | failed missed hmissed => cases hresult
  | missing => cases hresult

theorem Sought.stops {result : Except Failure Unit} (hsought : Sought rule wait count log result)
    (hresult : result = .error failure) :
    Stops (fun passed rejected => passed = unseen rule wait count ∧
      rejected = .firewallRuleNotGenerated rule) log failure := by
  cases hsought with
  | @found missed deleted hmissed =>
      rw [List.append_cons, List.append_cons]
      cases deleted with
      | ok _ => cases hresult
      | error fault =>
          cases hresult
          exact .refused (passes_sighting missed) rfl
  | failed missed hmissed =>
      cases hresult
      rw [List.append_cons]
      exact .refused (passes_lookup missed) rfl
  | missing =>
      cases hresult
      exact .rejected passes_unseen ⟨rfl, rfl⟩

end Loops

section Steps

variable {settings : Settings} {container id : String} {request : Request}
variable {created attached : Endpoint} {log steps : List Event} {failure : Failure}
variable {enforcement : Enforcement}

theorem Closing.passes (hclosing : Closing attached enforcement log (.ok ())) :
    ∀ event ∈ log, event.Passes := by
  cases hclosing with
  | unneeded => exact List.forall_mem_nil _
  | sought hport hsought => exact hsought.passes rfl

theorem Closing.stops (hclosing : Closing attached settings.enforcement log (.error failure)) :
    Stops (fun passed => Rejects settings container request
      (⟨.endpointById id, .ok attached⟩ :: passed)) log failure := by
  generalize henforcement : settings.enforcement = enforcement at hclosing
  cases hclosing with
  | unusable hport =>
      exact .rejected (List.forall_mem_nil _) (.unusable henforcement List.suffix_rfl hport)
  | sought hport hsought =>
      apply (hsought.stops rfl).imp
      rintro _ ⟨rfl, rfl⟩
      exact .ungenerated henforcement hport rfl List.suffix_rfl

theorem Joining.passes
    (hjoining : Joining enforcement container created steps (.ok attached)) :
    ∀ event ∈ steps, event.Passes := by
  cases hjoining with
  | joined hawaited hclosing =>
      simp only [List.forall_mem_cons, List.forall_mem_append]
      exact ⟨.inl rfl, hawaited.passes, .inl rfl, hclosing.passes⟩

theorem Joining.stops
    (hjoining : Joining settings.enforcement container created steps (.error failure)) :
    Stops (Rejects settings container request) steps failure := by
  cases hjoining with
  | refused => exact .single rfl
  | unready hawaited =>
      rw [← List.singleton_append]
      apply hawaited.stops.after (List.forall_mem_singleton.mpr (.inl rfl))
      rintro _ ⟨rfl, rfl⟩
      exact .unready (List.suffix_append _ _)
  | lost hawaited =>
      rw [← List.cons_append]
      exact .refused (List.forall_mem_cons.mpr ⟨.inl rfl, hawaited.passes⟩) rfl
  | @unclosed looks closing attached failure hawaited hclosing =>
      have hstops : Stops (fun passed => Rejects settings container request
          (⟨.endpointById created.id, .ok attached⟩ :: passed)) closing failure := hclosing.stops
      rw [← List.cons_append, List.append_cons]
      apply hstops.after
      · simp only [List.forall_mem_cons, List.forall_mem_append]
        exact ⟨⟨.inl rfl, hawaited.passes⟩, .inl rfl, List.forall_mem_nil _⟩
      · intro passed hrejects
        rw [List.append_assoc]
        exact hrejects.after

/-- An endpoint that was created and attached is the one that was last looked up. -/
theorem Creation.passes (hcreation : Creation settings container log (.ok attached)) :
    (∀ event ∈ log, event.Passes) ∧ ∃ id, ⟨.endpointById id, .ok attached⟩ ∈ log := by
  cases hcreation with
  | @attached network tried steps created _ htried hjoining =>
      simp only [List.forall_mem_cons, List.forall_mem_append]
      refine ⟨⟨.inl rfl, htried.passes, hjoining.passes⟩, created.id, ?_⟩
      exact List.mem_cons_of_mem _ (List.mem_append_right _ hjoining.mem_of_ok)

/-- Creating an endpoint stops at its first failing step; an endpoint that was made is then
deleted. -/
theorem Creation.stops (hcreation : Creation settings container log (.error failure)) :
    ∃ way undoing, log = way ++ undoing ∧ Stops (Rejects settings container request) way failure ∧
      ∀ event ∈ undoing, event.call.kind = .deleteEndpoint := by
  cases hcreation with
  | unlocated => exact ⟨_, [], (List.append_nil _).symm, .single rfl, List.forall_mem_nil _⟩
  | @uncreated network tried _ htried =>
      have hstops : Stops (Rejects settings container request) tried failure := htried.stops
      refine ⟨_, [], (List.append_nil _).symm, ?_, List.forall_mem_nil _⟩
      rw [← List.singleton_append]
      exact hstops.after (List.forall_mem_singleton.mpr (.inl rfl)) fun _ => Rejects.after
  | @undone network tried steps created _ deleted htried hjoining =>
      refine ⟨⟨.networkByName settings.networkName, .ok network⟩ :: tried ++ steps,
        [⟨.deleteEndpoint created, deleted⟩], ?_, ?_, List.forall_mem_singleton.mpr rfl⟩
      · rw [List.append_assoc, List.cons_append]
      · apply hjoining.stops.after
        · exact List.forall_mem_cons.mpr ⟨.inl rfl, htried.passes⟩
        · exact fun _ => Rejects.after

end Steps

end EndpointLifecycle

/-- The calls by which an endpoint and what is kept for its rules are taken back. -/
def CallKind.takesBack : CallKind → Bool
  | endpointByName | detachEndpoint | deleteEndpoint | releaseAllPorts | deleteRule => true
  | _ => false

namespace ContainerLifecycle

/-- All that bringing up a container may come to.  What is taken back after the first failing step
does not change the failure. -/
inductive UpRun (settings : Settings) (container : String) (request : Request) :
    List Event → Except Failure Report → Prop
  | up {log : List Event} {report : Report} (hfew : request.inbound.length ≤ 2)
      (hpassed : ∀ event ∈ log, event.Passes) : UpRun settings container request log (.ok report)
  | tooMany (hmany : 2 < request.inbound.length) :
      UpRun settings container request [] (.error (.tooManyPortMappings request.inbound.length))
  | stopped {way undoing : List Event} {failure : Failure} (hfew : request.inbound.length ≤ 2)
      (hstops : Stops (Rejects settings container request) way failure)
      (hundoing : ∀ event ∈ undoing, event.call.kind.takesBack) :
      UpRun settings container request (way ++ undoing) (.error failure)

theorem down_takes_back (settings : Settings) (handle : Handle) :
    Traces (fun log _ => ∀ event ∈ log, event.call.kind.takesBack) (down settings handle) := by
  have hwithdraws (call : Call) (hcall : call.Withdraws settings.enforcement handle.text) :
      call.kind.takesBack := by
    rcases List.mem_pair.mp hcall.kind_mem with hkind | hkind
    · rw [hkind]
      rfl
    · rw [hkind]
      rfl
  have hmakes : Makes (fun call => call.kind.takesBack) (down settings handle) :=
    down_makes rfl (fun _ => rfl) (fun _ => rfl) hwithdraws
  exact ⟨fun _ _ _ hevent => hmakes.allowed_of_mem_events hevent⟩

theorem up_traces (settings : Settings) (handle : Handle) (request : Request) :
    Traces (UpRun settings handle.text request) (up settings handle request) := by
  rw [up_eq]
  split
  case isTrue hmany => exact .throw (.tooMany hmany)
  case isFalse hmany =>
    have hfew : request.inbound.length ≤ 2 := Nat.not_lt.mp hmany
    apply (EndpointLifecycle.create_traces settings handle.text).bind
    · intro log failure hcreation
      obtain ⟨way, undoing, rfl, hstops, hundoing⟩ := hcreation.stops
      apply UpRun.stopped hfew hstops
      intro event hevent
      rw [hundoing event hevent]
      rfl
    · intro log attached hcreation
      obtain ⟨hpassed, id, hattached⟩ := hcreation.passes
      apply (install_ends settings handle.text request attached).orUndo
        (down_takes_back settings handle)
      · rintro more report ⟨_, hinstalled⟩
        exact .up hfew (List.forall_mem_append.mpr ⟨hpassed, hinstalled⟩)
      · intro more failure undoing _ hends hundoing
        rw [← List.append_assoc]
        apply UpRun.stopped hfew _ hundoing
        apply Stops.after hpassed hends
        intro passed hwrong
        exact .of_wrong? (List.mem_append_left _ hattached) hwrong

/-- Bringing up a container ends as its first failing step does, whatever the host answers. -/
theorem up_ends_with_first_failure {σ : Type} (respond : (call : Call) → σ → call.Answer × σ)
    (settings : Settings) (handle : Handle) (request : Request) (state : σ) :
    UpRun settings handle.text request (events respond (up settings handle request) state)
      (runOn respond (up settings handle request) state).1 :=
  (up_traces settings handle request).run respond state

end ContainerLifecycle

end ContainerNetwork
