import ContainerNetwork.Proofs.Host.Coherent
import ContainerNetwork.Proofs.Lifecycle.DefaultDeny
import ContainerNetwork.Proofs.Lifecycle.Milestones
import ContainerNetwork.Proofs.Lifecycle.Teardown
import ContainerNetwork.Proofs.Mirror

/-!
# One outcome for both ways of enforcement

A container comes to the same whether endpoint policies or the host firewall enforce its rules: the
same report or the same failure, the same ports in the pool and the same ports forwarded.  The host
firewall needs calls of its own, so these have to succeed; ports and commands in the container are
used alike.
-/

namespace ContainerNetwork

open Operation

/-! ## Events -/

theorem Call.Aside.of_kind {call : Call} {kinds : List CallKind} (hkind : call.kind ∈ kinds)
    (hother : ∀ kind ∈ [CallKind.exec, .allocatePort, .releaseAllPorts, .createNetwork,
      .deleteNetwork], kind ∉ kinds) : call.Aside := by
  cases call with
  | exec _ _ _ | allocatePort _ _ | releaseAllPorts _ | createNetwork _ | deleteNetwork _ =>
      exact hother _ (by simp [kind]) hkind
  | _ => trivial

namespace Event

/-- Whether the host did what a call on the network, the firewall or an adapter asked for. -/
def succeeds : Event → Bool
  | ⟨.networkByName _, answer⟩ | ⟨.createNetwork _, answer⟩ => Except.isOk answer
  | ⟨.createEndpoint _, answer⟩ | ⟨.updateEndpoint _, answer⟩ | ⟨.endpointById _, answer⟩
  | ⟨.endpointByName _, answer⟩ => Except.isOk answer
  | ⟨.deleteNetwork _, answer⟩ | ⟨.deleteEndpoint _, answer⟩ | ⟨.attachEndpoint _ _, answer⟩
  | ⟨.detachEndpoint _ _, answer⟩ | ⟨.createRule _, answer⟩ | ⟨.deleteRule _, answer⟩
  | ⟨.setAdapterMtu _ _, answer⟩ => Except.isOk answer
  | ⟨.ruleExists _, answer⟩ | ⟨.adapterExists _, answer⟩ => Except.isOk answer
  | ⟨.adapterMtu _, answer⟩ => Except.isOk answer
  | ⟨.exec _ _ _, _⟩ | ⟨.allocatePort _ _, _⟩ | ⟨.releaseAllPorts _, _⟩ | ⟨.sleep _, _⟩ => true

/-- The endpoint that the host describes by its identifier. -/
def described? : Event → Option Endpoint
  | ⟨.endpointById _, .ok endpoint⟩ => some endpoint
  | _ => none

/-- The rule that is found on the host. -/
def found? : Event → Option String
  | ⟨.ruleExists name, .ok true⟩ => some name
  | _ => none

end Event

def Policy.forward? : Policy → Option PortForward
  | nat forward => some forward
  | acl _ | qos _ => none

/-- The ports that the policies of an endpoint forward. -/
def Endpoint.forwards (endpoint : Endpoint) : List PortForward :=
  endpoint.policies.filterMap Policy.forward?

/-- Every endpoint that is described has a port, and the rule that the host made for it is found. -/
def FindsGenerated (events : List Event) : Prop :=
  ∀ endpoint ∈ events.filterMap Event.described?, ∃ allocator ∈ endpoint.port?,
    allocator.generatedRule ∈ events.filterMap Event.found?

instance : DecidablePred FindsGenerated := fun events =>
  inferInstanceAs (Decidable (∀ endpoint ∈ events.filterMap Event.described?,
    ∃ allocator ∈ endpoint.port?, allocator.generatedRule ∈ events.filterMap Event.found?))

/-! ### Looking for rules -/

section Looking

variable {σ α β : Type} {respond : (call : Call) → σ → call.Answer × σ} {state after : σ}
variable {operation : Operation α} {next : α → Operation β} {undo : Operation β} {value : α}

/-- The calls that look for no rule. -/
def Call.LooksElsewhere (call : Call) : Prop := call.kind ≠ .ruleExists

theorem Call.LooksElsewhere.of_kind {call : Call} {kinds : List CallKind}
    (hkind : call.kind ∈ kinds) (hother : CallKind.ruleExists ∉ kinds) : call.LooksElsewhere :=
  ne_of_mem_of_not_mem hkind hother

theorem Operation.Makes.found_eq_nil (hmakes : Makes Call.LooksElsewhere operation) (state : σ) :
    (events respond operation state).filterMap Event.found? = [] := by
  rw [List.filterMap_eq_nil_iff]
  intro event hevent
  have helsewhere := hmakes.allowed_of_mem_events hevent
  obtain ⟨call, answer⟩ := event
  cases call with
  | ruleExists name => exact absurd rfl helsewhere
  | _ => rfl

/-- What is found, but not in the beginning, is found in the rest. -/
theorem found_next {rule : String}
    (hnone : (events respond operation state).filterMap Event.found? = [])
    (hrun : runOn respond operation state = (.ok value, after))
    (hfound : rule ∈ (events respond (operation >>= next) state).filterMap Event.found?) :
    rule ∈ (events respond (next value) after).filterMap Event.found? := by
  rw [events_bind, List.filterMap_append, hnone, List.nil_append, hrun] at hfound
  exact hfound

namespace FindsGenerated

theorem rest (hfinds : FindsGenerated (events respond (operation >>= next) state))
    (hmakes : Makes Call.LooksElsewhere operation)
    (hrun : runOn respond operation state = (.ok value, after)) :
    FindsGenerated (events respond (next value) after) := by
  intro endpoint hdescribed
  have hmem : endpoint ∈ (events respond (operation >>= next) state).filterMap
      Event.described? := by
    rw [events_bind, List.filterMap_append, hrun]
    exact List.mem_append_right _ hdescribed
  obtain ⟨allocator, hport, hfound⟩ := hfinds endpoint hmem
  exact ⟨allocator, hport, found_next (hmakes.found_eq_nil state) hrun hfound⟩

theorem of_append {earlier later : List Event} (hfinds : FindsGenerated (earlier ++ later))
    (hnone : later.filterMap Event.found? = []) : FindsGenerated earlier := by
  intro endpoint hdescribed
  have hmem : endpoint ∈ (earlier ++ later).filterMap Event.described? := by
    rw [List.filterMap_append]
    exact List.mem_append_left _ hdescribed
  obtain ⟨allocator, hport, hfound⟩ := hfinds endpoint hmem
  rw [List.filterMap_append, hnone, List.append_nil] at hfound
  exact ⟨allocator, hport, hfound⟩

theorem first (hfinds : FindsGenerated (events respond (operation >>= next) state))
    (hmakes : ∀ value, Makes Call.LooksElsewhere (next value)) :
    FindsGenerated (events respond operation state) := by
  rw [events_bind] at hfinds
  apply hfinds.of_append
  rcases runOn respond operation state with ⟨failure | value, after⟩
  · rfl
  · exact (hmakes value).found_eq_nil after

theorem undone (hfinds : FindsGenerated (events respond (orUndo operation undo) state))
    (hmakes : Makes Call.LooksElsewhere undo) :
    FindsGenerated (events respond operation state) := by
  rw [events_orUndo] at hfinds
  apply hfinds.of_append
  rcases runOn respond operation state with ⟨failure | value, after⟩
  · exact hmakes.found_eq_nil after
  · rfl

end FindsGenerated

end Looking

/-! ## Comparing the runs -/

/-- Sound states with the same files, in which commands go on alike. -/
structure Alike {σ ς : Type} (files : σ → FileTree) (shell : σ → ς) (sound : σ → Prop)
    (left right : σ) : Prop where
  files : files left = files right
  shell : shell left = shell right
  left : sound left
  right : sound right

/-- Runs on a host compared by its files and commands and by the ports that they forward, provided
that what they ask of the network, the firewall and the adapters is done. -/
def Coherent.comparison {σ ς : Type} {place : FilePlace} {range : ManagedRange}
    {respond : (call : Call) → σ → call.Answer × σ} {files : σ → FileTree} {shell : σ → ς}
    {execute : (container command : String) → (timeout : Nat) → ς →
      Except HostFault CommandEnd × ς} {sound : σ → Prop}
    (_ : Coherent place range respond files shell execute sound) :
    Comparison σ (List PortForward) where
  respond
  alike := Alike files shell sound
  fine event := event.succeeds
  shown event := event.committed?.map Endpoint.forwards

namespace Coherent

variable {σ ς α β : Type} {place : FilePlace} {range : ManagedRange}
variable {respond : (call : Call) → σ → call.Answer × σ} {files : σ → FileTree} {shell : σ → ς}
variable {execute : (container command : String) → (timeout : Nat) → ς →
  Except HostFault CommandEnd × ς} {sound : σ → Prop}
variable (hcoherent : Coherent place range respond files shell execute sound)
variable {settings : Settings} {container : String} {state first second : σ}

/-! ## Calls aside -/

include hcoherent in
/-- Calls aside leave the pool and the shell as they are. -/
theorem aside_runOn {operation : Operation α} (haside : Makes Call.Aside operation)
    (hsound : sound state) : Alike files shell sound state (runOn respond operation state).2 := by
  refine haside.keeps (Alike files shell sound state) (fun call after hcall halike => ?_)
    ⟨rfl, rfl, hsound, hsound⟩
  obtain ⟨hfiles, hshell⟩ := hcoherent.aside call after hcall halike.right
  exact ⟨halike.files.trans hfiles.symm, halike.shell.trans hshell.symm, hsound,
    hcoherent.sound_respond call after halike.right⟩

include hcoherent in
theorem aside_right {operation : Operation α} (haside : Makes Call.Aside operation)
    (halike : Alike files shell sound first second) :
    Alike files shell sound first (runOn respond operation second).2 := by
  have hkept := hcoherent.aside_runOn haside halike.right
  exact ⟨halike.files.trans hkept.files, halike.shell.trans hkept.shell, halike.left, hkept.right⟩

include hcoherent in
theorem aside_both {left : Operation α} {right : Operation β} (hleft : Makes Call.Aside left)
    (hright : Makes Call.Aside right) (halike : Alike files shell sound first second) :
    Alike files shell sound (runOn respond left first).2 (runOn respond right second).2 := by
  have hkept := hcoherent.aside_runOn hleft halike.left
  have hlast := hcoherent.aside_right hright halike
  exact ⟨hkept.files.symm.trans hlast.files, hkept.shell.symm.trans hlast.shell, hkept.right,
    hlast.right⟩

theorem shows_eq_nil {operation : Operation α} (hmakes : Makes Call.CommitsNothing operation)
    (state : σ) : hcoherent.comparison.shows operation state = [] := by
  rw [Comparison.shows, List.filterMap_eq_nil_iff]
  intro event hevent
  change event.committed?.map _ = none
  rw [Event.committed?_eq_none (hmakes.allowed_of_mem_events hevent)]
  rfl

theorem host_sure {plan : Plan (Except HostFault α)}
    (hok : hcoherent.comparison.Fine (host plan) state → Except.isOk (plan.run respond state).1) :
    hcoherent.comparison.Sure (host plan) state := by
  intro hfine
  obtain ⟨value, hvalue⟩ := isOk_iff.mp (hok hfine)
  refine ⟨value, ?_⟩
  change (runOn respond (host plan) state).1 = _
  rw [runOn_host, hvalue]
  rfl

/-- Operations that are made of calls aside mirror each other if they succeed. -/
theorem aside_mirrors {left : Operation α} {right : Operation β} (hleft : Makes Call.Aside left)
    (hright : Makes Call.Aside right) (hleftSure : hcoherent.comparison.Sure left first)
    (hrightSure : hcoherent.comparison.Sure right second)
    (hshows : hcoherent.comparison.Fine left first → hcoherent.comparison.Fine right second →
      hcoherent.comparison.shows left first = hcoherent.comparison.shows right second)
    (halike : Alike files shell sound first second) :
    hcoherent.comparison.Mirrors (fun _ _ => True) left first right second := by
  intro hleftFine hrightFine
  obtain ⟨one, hone⟩ := hleftSure hleftFine
  obtain ⟨other, hother⟩ := hrightSure hrightFine
  rw [hone, hother]
  exact ⟨.ok trivial, hcoherent.aside_both hleft hright halike, hshows hleftFine hrightFine⟩

/-- Runs that begin with the same calls aside part only after them. -/
theorem bind_aside {γ : Type} {related : β → γ → Prop} {operation : Operation α}
    {next : α → Operation β} {follow : α → Operation γ} (haside : Makes Call.Aside operation)
    (hsound : sound state)
    (hnext : ∀ value after, runOn respond operation state = (.ok value, after) → sound after →
      hcoherent.comparison.Mirrors related (next value) after (follow value) after) :
    hcoherent.comparison.Mirrors related (operation >>= next) state (operation >>= follow)
      state := by
  have hafter {result : Except Failure α} {after : σ}
      (hrun : runOn respond operation state = (result, after)) : sound after := by
    have hkept := (hcoherent.aside_runOn haside hsound).right
    rwa [hrun] at hkept
  refine .bind_same (fun failure after hrun => ?_) fun value after hrun => ?_
  · exact ⟨rfl, rfl, hafter hrun, hafter hrun⟩
  · exact hnext value after hrun (hafter hrun)

/-! ## Calls alike -/

theorem exec_mirrors (command : String) (timeout : Nat)
    (halike : Alike files shell sound first second) :
    hcoherent.comparison.Mirrors Eq (host (.call (.exec container command timeout))) first
      (host (.call (.exec container command timeout))) second := by
  intro _ _
  obtain ⟨hleft, hleftFiles⟩ := hcoherent.exec container command timeout first halike.left
  obtain ⟨hright, hrightFiles⟩ := hcoherent.exec container command timeout second halike.right
  rw [halike.shell, hright] at hleft
  obtain ⟨hanswer, hshell⟩ := Prod.mk.inj hleft
  refine ⟨?_, ⟨?_, hshell.symm, ?_, ?_⟩, rfl⟩
  · exact .of_eq (congrArg (Except.mapError Failure.host) hanswer.symm)
  · exact hleftFiles.trans (halike.files.trans hrightFiles.symm)
  · exact hcoherent.sound_respond _ _ halike.left
  · exact hcoherent.sound_respond _ _ halike.right

theorem allocatePort_mirrors (port : UInt16) (halike : Alike files shell sound first second) :
    hcoherent.comparison.Mirrors Eq (pool (.call (.allocatePort container port))) first
      (pool (.call (.allocatePort container port))) second := by
  intro _ _
  obtain ⟨hleft, hleftShell⟩ := hcoherent.allocatePort container port first halike.left
  obtain ⟨hright, hrightShell⟩ := hcoherent.allocatePort container port second halike.right
  rw [halike.files, hright] at hleft
  obtain ⟨hanswer, hfiles⟩ := Prod.mk.inj hleft
  refine ⟨.of_eq hanswer.symm, ⟨hfiles.symm, ?_, ?_, ?_⟩, rfl⟩
  · exact hleftShell.trans (halike.shell.trans hrightShell.symm)
  · exact hcoherent.sound_respond _ _ halike.left
  · exact hcoherent.sound_respond _ _ halike.right

include hcoherent in
theorem releaseAllPorts_alike (handle : String) (halike : Alike files shell sound first second) :
    Alike files shell sound (respond (.releaseAllPorts handle) first).2
      (respond (.releaseAllPorts handle) second).2 := by
  obtain ⟨hleft, hleftShell⟩ := hcoherent.releaseAllPorts handle first halike.left
  obtain ⟨hright, hrightShell⟩ := hcoherent.releaseAllPorts handle second halike.right
  rw [halike.files, hright] at hleft
  obtain ⟨_, hfiles⟩ := Prod.mk.inj hleft
  refine ⟨hfiles.symm, hleftShell.trans (halike.shell.trans hrightShell.symm), ?_, ?_⟩
  · exact hcoherent.sound_respond _ _ halike.left
  · exact hcoherent.sound_respond _ _ halike.right

theorem permitHttp_mirrors (port : UInt32) (halike : Alike files shell sound first second) :
    hcoherent.comparison.Mirrors Eq (ContainerCommand.permitHttp container port) first
      (ContainerCommand.permitHttp container port) second := by
  apply (hcoherent.exec_mirrors _ _ halike).bind
  rintro ending _ first second rfl halike
  cases ending with
  | timedOut => exact .throw _ halike
  | exited code =>
      dsimp only
      split
      · exact .throw _ halike
      · exact .pure rfl halike

theorem port_mirrors (number : UInt32) (halike : Alike files shell sound first second) :
    hcoherent.comparison.Mirrors Eq (InboundRule.port number) first (InboundRule.port number)
      second := by
  rw [InboundRule.port]
  split
  · exact .pure rfl halike
  · exact .throw _ halike

/-! ## Rules -/

/-- A rule of the host firewall may be made on the way. -/
theorem createRule_aside {rule : FirewallRule} {left : Operation α} {follow : Unit → Operation β}
    {related : α → β → Prop} (halike : Alike files shell sound first second)
    (hnext : ∀ second, Alike files shell sound first second →
      hcoherent.comparison.Mirrors related left first (follow ()) second) :
    hcoherent.comparison.Mirrors related left first (host (.call (.createRule rule)) >>= follow)
      second := by
  have haside : Makes Call.Aside (host (.call (.createRule rule)) : Operation Unit) :=
    .host (Plan.makes_call trivial)
  refine .bind_right ?_ ?_ fun value after hrun => ?_
  · exact hcoherent.host_sure fun hfine =>
      hfine ⟨.createRule rule, _⟩ (List.mem_singleton.mpr rfl)
  · exact hcoherent.shows_eq_nil (.host (Plan.makes_call trivial)) second
  · have hafter := hcoherent.aside_right haside halike
    rw [show runOn respond (host (.call (.createRule rule))) second = (.ok value, after) from hrun]
      at hafter
    exact hnext after hafter

/-- Both ways of enforcement forward a port alike. -/
theorem forward_mirrors (rule : InboundRule) (address : Address)
    (halike : Alike files shell sound first second) :
    hcoherent.comparison.Mirrors
      (fun left right => left.mapping = right.mapping ∧ left.nat = right.nat)
      (Enforcement.policyEngine.forward container rule address) first
      (Enforcement.firewall.forward container rule address) second := by
  apply (hcoherent.port_mirrors rule.containerPort halike).bind
  rintro containerPort _ first second rfl halike
  have hreserve : hcoherent.comparison.Mirrors Eq (rule.reserveHostPort container) first
      (rule.reserveHostPort container) second := by
    apply (hcoherent.port_mirrors rule.hostPort halike).bind
    rintro requested _ first second rfl halike
    exact hcoherent.allocatePort_mirrors requested halike
  apply hreserve.bind
  rintro hostPort _ first second rfl halike
  apply hcoherent.createRule_aside halike
  intro second halike
  apply (hcoherent.permitHttp_mirrors rule.containerPort halike).bind
  rintro _ _ first second _ halike
  exact .pure ⟨rfl, rfl⟩ halike

/-- Both ways of enforcement refuse the same outbound rules. -/
theorem permit_mirrors (rule : OutboundRule) (address : Address)
    (halike : Alike files shell sound first second) :
    hcoherent.comparison.Mirrors (fun _ _ => True)
      (Enforcement.policyEngine.permit container rule address) first
      (Enforcement.firewall.permit container rule address) second := by
  rw [Enforcement.permit, Enforcement.permit, PolicyEngine.permit, Firewall.permit,
    PolicyEngine.outboundEntry, Firewall.outboundRule]
  cases rule.protocol.outbound with
  | error failure => exact .throw failure halike
  | ok meaning =>
      apply hcoherent.createRule_aside halike
      intro second halike
      exact .pure trivial halike

/-! ## The endpoint's policies and its MTU -/

theorem forwards_addedPolicies (settings : Settings) (nat : List PortForward)
    (acl : List AclEntry) :
    (EndpointLifecycle.addedPolicies settings nat acl).filterMap Policy.forward? = nat := by
  have hnat : (nat.map Policy.nat).filterMap Policy.forward? = nat := by
    rw [List.filterMap_map]
    exact List.filterMap_some
  have hacl (entries : List AclEntry) :
      (entries.map Policy.acl).filterMap Policy.forward? = [] := by
    simp [Policy.forward?]
  rw [EndpointLifecycle.addedPolicies, List.filterMap_append, hnat, hacl, List.append_nil]

theorem shows_updateEndpoint {asked : Endpoint}
    (hok : Except.isOk (respond (.updateEndpoint asked) state).1) :
    hcoherent.comparison.shows (host (.call (.updateEndpoint asked)) : Operation Endpoint) state =
      [asked.forwards] := by
  obtain ⟨updated, hupdated⟩ := isOk_iff.mp hok
  change (events respond (host (.call (.updateEndpoint asked))) state).filterMap _ = _
  rw [events_host, Plan.log_call, hupdated]
  rfl

/-- Endpoints that are updated alike but for their access control lists forward the same ports. -/
theorem applyPolicies_mirrors {one other : Settings} (endpoint : Endpoint) (nat : List PortForward)
    (left right : List AclEntry) (halike : Alike files shell sound first second) :
    hcoherent.comparison.Mirrors (fun _ _ => True)
      (EndpointLifecycle.applyPolicies one endpoint nat left) first
      (EndpointLifecycle.applyPolicies other endpoint nat right) second := by
  have hok {settings : Settings} {acl : List AclEntry} {state : σ} (hfine :
      hcoherent.comparison.Fine (EndpointLifecycle.applyPolicies settings endpoint nat acl) state) :
      Except.isOk (respond (.updateEndpoint { endpoint with policies :=
        endpoint.policies ++ EndpointLifecycle.addedPolicies settings nat acl }) state).1 :=
    hfine ⟨.updateEndpoint _, _⟩ (List.mem_singleton.mpr rfl)
  refine hcoherent.aside_mirrors (.host (Plan.makes_call trivial)) (.host (Plan.makes_call trivial))
    (hcoherent.host_sure hok) (hcoherent.host_sure hok) (fun hleft hright => ?_) halike
  rw [EndpointLifecycle.applyPolicies, hcoherent.shows_updateEndpoint (hok hleft),
    EndpointLifecycle.applyPolicies, hcoherent.shows_updateEndpoint (hok hright)]
  simp only [Endpoint.forwards, List.filterMap_append, forwards_addedPolicies]

/-- The MTU is set where the adapters do what they are asked for. -/
theorem setMtu_sure (settings : Settings) (container : String) (state : σ) :
    hcoherent.comparison.Sure (EndpointLifecycle.setMtu settings container) state := by
  have hset (mtu : UInt32) (state : σ) : hcoherent.comparison.Sure
      (do host (.call (.setAdapterMtu (adapterOf container) mtu)); return mtu) state := by
    apply Comparison.Sure.bind
    · exact hcoherent.host_sure fun hfine =>
        hfine ⟨.setAdapterMtu _ _, _⟩ (List.mem_singleton.mpr rfl)
    · exact fun _ _ _ => .pure mtu
  rw [EndpointLifecycle.setMtu]
  split
  · apply Comparison.Sure.bind
    · exact hcoherent.host_sure fun hfine =>
        hfine ⟨.adapterMtu _, _⟩ (List.mem_singleton.mpr rfl)
    · exact fun mtu after _ => hset mtu after
  · exact hset settings.mtu state

theorem setMtu_mirrors (settings : Settings) (container : String)
    (halike : Alike files shell sound first second) :
    hcoherent.comparison.Mirrors (fun _ _ => True) (EndpointLifecycle.setMtu settings container)
      first (EndpointLifecycle.setMtu settings container) second := by
  have hmakes := EndpointLifecycle.setMtu_makes settings container
  have haside : Makes Call.Aside (EndpointLifecycle.setMtu settings container) :=
    hmakes.mono fun _ hadapts => .of_kind hadapts.kind_mem (by decide)
  have hsilent : Makes Call.CommitsNothing (EndpointLifecycle.setMtu settings container) :=
    hmakes.mono fun _ hadapts => .of_kind hadapts.kind_mem (by decide)
  refine hcoherent.aside_mirrors haside haside (hcoherent.setMtu_sure settings container first)
    (hcoherent.setMtu_sure settings container second) (fun _ _ => ?_) halike
  rw [hcoherent.shows_eq_nil hsilent, hcoherent.shows_eq_nil hsilent]

/-! ## The way up and the way down -/

theorem map_eq_of_forall₂ {γ : Type} {f : α → γ} {g : β → γ} {left : List α} {right : List β}
    (h : List.Forall₂ (fun a b => f a = g b) left right) : left.map f = right.map g := by
  rw [← List.forall₂_eq_eq_eq, List.forall₂_map_left_iff, List.forall₂_map_right_iff]
  exact h

/-- Putting the rules of a request in force comes to the same. -/
theorem install_mirrors (settings : Settings) (container : String) (request : Request)
    (endpoint : Endpoint) (halike : Alike files shell sound first second) :
    hcoherent.comparison.Mirrors Eq
      (ContainerLifecycle.install { settings with enforcement := .policyEngine } container request
        endpoint) first
      (ContainerLifecycle.install { settings with enforcement := .firewall } container request
        endpoint) second := by
  rw [ContainerLifecycle.install, ContainerLifecycle.install]
  cases endpoint.address with
  | none => exact .throw _ halike
  | some address =>
      have hforward : hcoherent.comparison.Mirrors
          (List.Forall₂ fun left right => left.mapping = right.mapping ∧ left.nat = right.nat)
          (request.inbound.mapM fun rule =>
            Enforcement.policyEngine.forward container rule address) first
          (request.inbound.mapM fun rule =>
            Enforcement.firewall.forward container rule address) second :=
        .mapM (fun rule _ _ => hcoherent.forward_mirrors rule address) request.inbound halike
      apply hforward.bind
      intro left right first second hinbound halike
      have hpermit : hcoherent.comparison.Mirrors (List.Forall₂ fun _ _ => True)
          (request.outbound.mapM fun rule =>
            Enforcement.policyEngine.permit container rule address) first
          (request.outbound.mapM fun rule =>
            Enforcement.firewall.permit container rule address) second :=
        .mapM (fun rule _ _ => hcoherent.permit_mirrors rule address) request.outbound halike
      apply hpermit.bind
      intro allowed permitted first second _ halike
      rw [map_eq_of_forall₂ (hinbound.imp fun _ _ => And.left),
        map_eq_of_forall₂ (hinbound.imp fun _ _ => And.right)]
      apply (hcoherent.applyPolicies_mirrors endpoint _ _ _ halike).discard.bind
      intro _ _ first second _ halike
      apply (hcoherent.setMtu_mirrors settings container halike).discard.bind
      intro _ _ first second _ halike
      exact .pure rfl halike

include hcoherent in
/-- Taking a container down releases its ports, however it ends. -/
theorem down_alike (settings : Settings) (handle : Handle)
    (halike : Alike files shell sound first second) :
    Alike files shell sound
      (runOn respond (ContainerLifecycle.down { settings with enforcement := .policyEngine } handle)
        first).2
      (runOn respond (ContainerLifecycle.down { settings with enforcement := .firewall } handle)
        second).2 := by
  rw [ContainerLifecycle.down_runOn, ContainerLifecycle.down_runOn]
  dsimp only
  rw [Enforcement.withdraw_runOn, Enforcement.withdraw_runOn]
  have hdelete : Makes Call.Aside (EndpointLifecycle.delete handle.text) :=
    EndpointLifecycle.delete_makes trivial (fun _ => trivial) fun _ => trivial
  have hreleased := hcoherent.releaseAllPorts_alike handle.text
    (hcoherent.aside_both hdelete hdelete halike)
  obtain ⟨hfiles, hshell⟩ := hcoherent.aside (.deleteRule handle.text) _ trivial hreleased.right
  exact ⟨hreleased.files.trans hfiles.symm, hreleased.shell.trans hshell.symm, hreleased.left,
    hcoherent.sound_respond _ _ hreleased.right⟩

/-! ## The rule that the host makes -/

/-- A rule that is found is deleted. -/
theorem deleteGeneratedRule_sure (rule : String) (wait lookups : Nat) (state : σ)
    (hfound : rule ∈ (events respond (EndpointLifecycle.deleteGeneratedRule rule wait lookups)
      state).filterMap Event.found?) :
    hcoherent.comparison.Sure (EndpointLifecycle.deleteGeneratedRule rule wait lookups) state := by
  induction lookups generalizing wait state with
  | zero => cases hfound
  | succ lookups ih =>
      rw [EndpointLifecycle.deleteGeneratedRule] at hfound ⊢
      refine .bind (fun _ => ⟨(), rfl⟩) fun _ slept hslept => ?_
      have hfound := found_next rfl hslept hfound
      refine .bind (hcoherent.host_sure fun hfine =>
        hfine ⟨.ruleExists rule, _⟩ (List.mem_singleton.mpr rfl)) fun found looked hlooked => ?_
      cases found with
      | true =>
          exact hcoherent.host_sure fun hfine =>
            hfine ⟨.deleteRule rule, _⟩ (List.mem_singleton.mpr rfl)
      | false =>
          have hanswer : (respond (.ruleExists rule) slept).1 = .ok false :=
            mapError_eq_ok (congrArg Prod.fst hlooked)
          have hnone : (events respond (host (.call (.ruleExists rule)) : Operation Bool)
              slept).filterMap Event.found? = [] := by
            rw [events_host, Plan.log_call, hanswer]
            rfl
          have hlater := found_next hnone hlooked hfound
          exact ih _ _ hlater

/-- Where the rule of an endpoint's port is found, it is deleted. -/
theorem closeGeneratedRule_sure {endpoint : Endpoint} {allocator : Allocator}
    (hport : endpoint.port? = some allocator) (hfound : allocator.generatedRule ∈
      (events respond (EndpointLifecycle.closeGeneratedRule endpoint) state).filterMap
        Event.found?) :
    hcoherent.comparison.Sure (EndpointLifecycle.closeGeneratedRule endpoint) state := by
  rw [EndpointLifecycle.closeGeneratedRule, hport] at hfound ⊢
  exact hcoherent.deleteGeneratedRule_sure _ _ _ _ hfound

/-! ## Bringing a container up -/

theorem closing_mirrors {attached : Endpoint} {allocator : Allocator}
    (hport : attached.port? = some allocator) (hfound : allocator.generatedRule ∈
      (events respond (do EndpointLifecycle.closeGeneratedRule attached; return attached)
        state).filterMap Event.found?) (hsound : sound state) :
    hcoherent.comparison.Mirrors Eq (pure attached) state
      (do EndpointLifecycle.closeGeneratedRule attached; return attached) state := by
  have hcloses := EndpointLifecycle.closeGeneratedRule_makes attached.name attached.id attached
  have hclosing : allocator.generatedRule ∈ (events respond
      (EndpointLifecycle.closeGeneratedRule attached) state).filterMap Event.found? := by
    rw [events_bind, List.filterMap_append] at hfound
    rcases List.mem_append.mp hfound with hfound | hfound
    · exact hfound
    · rcases hrun : runOn respond (EndpointLifecycle.closeGeneratedRule attached) state with
        ⟨failure | _, after⟩
      · rw [hrun] at hfound
        cases hfound
      · rw [hrun] at hfound
        cases hfound
  refine .bind_right (hcoherent.closeGeneratedRule_sure hport hclosing) ?_ fun _ after hrun => ?_
  · exact hcoherent.shows_eq_nil (hcloses.mono fun _ hattaches =>
      .of_kind hattaches.kind_mem (by decide)) state
  · have halike := hcoherent.aside_runOn (hcloses.mono fun _ hattaches =>
      .of_kind hattaches.kind_mem (by decide)) hsound
    rw [show runOn respond (EndpointLifecycle.closeGeneratedRule attached) state = _ from hrun]
      at halike
    exact .pure rfl halike

/-- Attaching comes to the same once the rule that the host makes is deleted. -/
theorem attach_mirrors (settings : Settings) (container : String) (created : Endpoint)
    (hsound : sound state) (hfinds : FindsGenerated (events respond
      (EndpointLifecycle.attach { settings with enforcement := .firewall } container created)
      state)) :
    hcoherent.comparison.Mirrors Eq
      (EndpointLifecycle.attach { settings with enforcement := .policyEngine } container created)
      state
      (EndpointLifecycle.attach { settings with enforcement := .firewall } container created)
      state := by
  have haside : Makes Call.Aside (EndpointLifecycle.describe container created) :=
    EndpointLifecycle.describe_makes trivial trivial (fun _ => trivial) trivial
  have helsewhere : Makes Call.LooksElsewhere (EndpointLifecycle.describe container created) :=
    EndpointLifecycle.describe_makes nofun nofun (fun _ => nofun) nofun
  rw [EndpointLifecycle.attach_eq] at hfinds
  rw [EndpointLifecycle.attach_eq, EndpointLifecycle.attach_eq]
  refine hcoherent.bind_aside haside hsound fun attached after hrun hsound => ?_
  have hdescribed : ⟨.endpointById created.id, .ok attached⟩ ∈
      events respond (EndpointLifecycle.describe container created) state :=
    ((EndpointLifecycle.describe_reaches container created []).ends_of_ok
      (congrArg Prod.fst hrun)).mem (by simp)
  obtain ⟨allocator, hport, hfound⟩ := hfinds attached (by
    rw [events_bind, List.filterMap_append]
    exact List.mem_append_left _ (List.mem_filterMap.mpr ⟨_, hdescribed, rfl⟩))
  have hfound := found_next (helsewhere.found_eq_nil state) hrun hfound
  exact hcoherent.closing_mirrors hport hfound hsound

/-- Creating an endpoint comes to the same. -/
theorem create_mirrors (settings : Settings) (container : String) (hsound : sound state)
    (hfinds : FindsGenerated (events respond
      (EndpointLifecycle.create { settings with enforcement := .firewall } container) state)) :
    hcoherent.comparison.Mirrors Eq
      (EndpointLifecycle.create { settings with enforcement := .policyEngine } container) state
      (EndpointLifecycle.create { settings with enforcement := .firewall } container) state := by
  rw [EndpointLifecycle.create_eq] at hfinds
  rw [EndpointLifecycle.create_eq, EndpointLifecycle.create_eq]
  have hlooks : Makes Call.Aside
      (host (.call (.networkByName settings.networkName)) : Operation Network) :=
    .host (Plan.makes_call trivial)
  refine hcoherent.bind_aside hlooks hsound fun network looked hlooked hsound => ?_
  have hfinds := hfinds.rest (.host (Plan.makes_call nofun)) hlooked
  have hcreates : Makes Call.Aside (EndpointLifecycle.createRetrying
      (EndpointLifecycle.descriptor settings container network.id)
      (EndpointLifecycle.createAttempts - 1)) :=
    EndpointLifecycle.createRetrying_makes trivial _
  refine hcoherent.bind_aside hcreates hsound fun created after hcreated hsound => ?_
  have hfinds := hfinds.rest (EndpointLifecycle.createRetrying_makes nofun _) hcreated
  have hdeletes : Makes Call.Aside (host (.call (.deleteEndpoint created)) : Operation Unit) :=
    .host (Plan.makes_call trivial)
  have hsilent : Makes Call.CommitsNothing
      (host (.call (.deleteEndpoint created)) : Operation Unit) := .host (Plan.makes_call trivial)
  refine .orUndo ?_ (fun _ _ => hcoherent.aside_both hdeletes hdeletes)
    (hcoherent.shows_eq_nil hsilent) (hcoherent.shows_eq_nil hsilent)
  exact hcoherent.attach_mirrors settings container created hsound
    (hfinds.undone (.host (Plan.makes_call nofun)))

/-- Bringing a container up comes to the same. -/
theorem up_mirrors (settings : Settings) (handle : Handle) (request : Request)
    (hsound : sound state) (hfinds : FindsGenerated (events respond
      (ContainerLifecycle.up { settings with enforcement := .firewall } handle request) state)) :
    hcoherent.comparison.Mirrors Eq
      (ContainerLifecycle.up { settings with enforcement := .policyEngine } handle request) state
      (ContainerLifecycle.up { settings with enforcement := .firewall } handle request) state := by
  rw [ContainerLifecycle.up_eq] at hfinds
  rw [ContainerLifecycle.up_eq, ContainerLifecycle.up_eq]
  by_cases hmany : ContainerLifecycle.maxPortMappings < request.inbound.length
  · simp only [if_pos hmany]
    exact .throw _ ⟨rfl, rfl, hsound, hsound⟩
  · simp only [if_neg hmany] at hfinds ⊢
    have hdown (settings : Settings) : Makes Call.LooksElsewhere
        (ContainerLifecycle.down settings handle) :=
      ContainerLifecycle.down_makes nofun (fun _ => nofun) (fun _ => nofun)
        fun _ hwithdraws => .of_kind hwithdraws.kind_mem (by decide)
    have hsilent (settings : Settings) : Makes Call.CommitsNothing
        (ContainerLifecycle.down settings handle) :=
      ContainerLifecycle.down_makes trivial (fun _ => trivial) (fun _ => trivial)
        fun _ hwithdraws => .of_kind hwithdraws.kind_mem (by decide)
    have hcreates := hfinds.first fun endpoint => .orUndo
      ((ContainerLifecycle.install_makes _ handle.text request endpoint).mono
        fun _ hinstalls => .of_kind hinstalls.kind_mem (by decide)) (hdown _)
    apply (hcoherent.create_mirrors settings handle.text hsound hcreates).bind
    rintro endpoint _ first second rfl halike
    refine .orUndo (hcoherent.install_mirrors settings handle.text request endpoint halike)
      (fun _ _ => hcoherent.down_alike settings handle) (hcoherent.shows_eq_nil (hsilent _))
      (hcoherent.shows_eq_nil (hsilent _))

end Coherent

namespace ContainerLifecycle

/-- Both ways of enforcement bring a container up with the same report or the same failure, leave
the same files and with them the same port pool, and commit the same forwarded ports. -/
theorem backends_agree {σ ς : Type} {place : FilePlace} {range : ManagedRange}
    {respond : (call : Call) → σ → call.Answer × σ} {files : σ → FileTree} {shell : σ → ς}
    {execute : (container command : String) → (timeout : Nat) → ς →
      Except HostFault CommandEnd × ς} {sound : σ → Prop} {state : σ}
    (hcoherent : Coherent place range respond files shell execute sound) (settings : Settings)
    (handle : Handle) (request : Request) (hsound : sound state)
    (hsucceeds : ∀ enforcement,
      ∀ event ∈ events respond (up { settings with enforcement } handle request) state,
        event.succeeds)
    (hfinds : FindsGenerated
      (events respond (up { settings with enforcement := .firewall } handle request) state)) :
    let run (enforcement : Enforcement) :=
      runOn respond (up { settings with enforcement } handle request) state
    let forwarded (enforcement : Enforcement) :=
      (commits respond (up { settings with enforcement } handle request) state).map
        Endpoint.forwards
    (run .policyEngine).1 = (run .firewall).1 ∧
      files (run .policyEngine).2 = files (run .firewall).2 ∧
      forwarded .policyEngine = forwarded .firewall := by
  intro run forwarded
  obtain ⟨hends, halike, hshows⟩ := hcoherent.up_mirrors settings handle request hsound hfinds
    (hsucceeds .policyEngine) (hsucceeds .firewall)
  refine ⟨hends.eq, halike.files, ?_⟩
  simp only [forwarded, commits, List.map_filterMap]
  exact hshows

/-- Two ports and an outbound rule come to the same either way. -/
theorem backends_agree_of_ready :
    let request : Request := { inbound := [⟨0, 8080⟩, ⟨7000, 9090⟩], outbound := [{}] }
    let handle : Handle := ⟨"container", by decide⟩
    let operation (enforcement : Enforcement) := up { enforcement } handle request
    let respond := SimulatedHost.respond ⟨61000, 10⟩
    let run (enforcement : Enforcement) := runOn respond (operation enforcement) .ready
    let forwarded (enforcement : Enforcement) :=
      (commits respond (operation enforcement) .ready).map Endpoint.forwards
    Except.isOk (run .firewall).1 ∧ (run .policyEngine).1 = (run .firewall).1 ∧
      (run .policyEngine).2.files = (run .firewall).2.files ∧
      forwarded .policyEngine = forwarded .firewall ∧
      forwarded .firewall = [[.tcp 8080 61000, .tcp 9090 7000]] := by
  intro request handle operation respond run forwarded
  have hsucceeds : ∀ enforcement, ∀ event ∈ events respond (operation enforcement) .ready,
      event.succeeds := by
    intro enforcement
    cases enforcement with
    | policyEngine => decide +kernel
    | firewall => decide +kernel
  have hfinds : FindsGenerated (events respond (operation .firewall) .ready) := by decide +kernel
  obtain ⟨hends, hfiles, hforwarded⟩ := backends_agree (SimulatedHost.coherent ⟨61000, 10⟩) {}
    handle request SimulatedHost.ready_tidy hsucceeds hfinds
  exact ⟨by decide +kernel, hends, hfiles, hforwarded, by decide +kernel⟩

end ContainerLifecycle

end ContainerNetwork
