import ContainerNetwork.Proofs.Host.PoolService
import ContainerNetwork.Proofs.Lifecycle.Calls

/-!
# The host ports of a container

Every inbound rule of a container gets a host port: the one that it names, or one from the pool that
was free.  Over a whole list of rules, the ports from the pool differ and are all reserved in the
end.  What is reported for a rule, what is forwarded and what is let in go by the same two ports.
-/

namespace ContainerNetwork

open Operation

/-! ## Ports found for rules -/

namespace PortPool

variable {place : FilePlace} {range : ManagedRange} {container : String} {rule : InboundRule}
variable {first before after last : FileTree} {port : UInt16}

/-- No reserved port is given up. -/
def Keeps (place : FilePlace) (before after : FileTree) : Prop :=
  ∀ port holder, reservedFor? place before port = some holder →
    reservedFor? place after port = some holder

theorem Keeps.refl : Keeps place before before := fun _ _ hheld => hheld

theorem Keeps.trans (hfirst : Keeps place first before) (hlast : Keeps place before last) :
    Keeps place first last :=
  fun port holder hport => hlast port holder (hfirst port holder hport)

/-- A port that is free in the end was free before. -/
theorem Keeps.free (hkeeps : Keeps place before after)
    (hfree : reservedFor? place after port = none) : reservedFor? place before port = none := by
  cases hheld : reservedFor? place before port with
  | none => rfl
  | some holder =>
      rw [hkeeps port holder hheld] at hfree
      cases hfree

theorem SameFile.keeps (hsame : SameFile place after before) : Keeps place before after := by
  intro port holder hport
  rw [hsame.reservedFor?]
  exact hport

/-- The host port that an inbound rule gets: the one that it names, or one that was free and is
now reserved for the container. -/
structure Grants (place : FilePlace) (container : String) (rule : InboundRule)
    (before after : FileTree) (port : UInt16) : Prop where
  named : rule.hostPort ≠ 0 → port.toUInt32 = rule.hostPort
  free : rule.hostPort = 0 → reservedFor? place before port = none
  reserved : rule.hostPort = 0 → reservedFor? place after port = some container

/-- A port that is granted at some time is granted over any longer time. -/
theorem Grants.widen (hgrants : Grants place container rule before after port)
    (hfirst : Keeps place first before) (hlast : Keeps place after last) :
    Grants place container rule first last port where
  named := hgrants.named
  free hany := hfirst.free (hgrants.free hany)
  reserved hany := hlast port container (hgrants.reserved hany)

/-- Reserving a free port grants it to a rule that asks for any. -/
theorem grants_of_allocate_zero (hany : rule.hostPort = 0)
    (hrun : (allocate place range container 0).runOn before = (.ok port, after)) :
    Grants place container rule before after port ∧ Keeps place before after := by
  rcases allocate_zero_reservedFor? hrun with
    ⟨granted, hgranted, _, hfree, hports⟩ | ⟨⟨failure, hfailed⟩, _⟩
  case inr => cases hfailed
  cases hgranted
  refine ⟨⟨absurd hany, fun _ => hfree, fun _ => ?_⟩, fun other holder hheld => ?_⟩
  · rw [hports, if_pos rfl]
  · have hother : other ≠ port := by
      intro hsame
      rw [hsame, hfree] at hheld
      cases hheld
    rw [hports, if_neg hother, hheld]

/-- A named port is granted to the rule that names it, and no port moves. -/
theorem grants_of_allocate_explicit (hnamed : rule.hostPort ≠ 0)
    (hfits : rule.hostPort.toUInt16.toUInt32 = rule.hostPort)
    (hrun : (allocate place range container rule.hostPort.toUInt16).runOn before =
      (.ok port, after)) :
    Grants place container rule before after port ∧ Keeps place before after := by
  have hport : rule.hostPort.toUInt16 ≠ 0 := by
    intro hzero
    rw [hzero] at hfits
    exact hnamed hfits.symm
  rw [allocate_explicit_runOn hport] at hrun
  split at hrun
  · cases hrun
  · cases hrun
    exact ⟨⟨fun _ => hfits, fun hany => absurd hany hnamed, fun hany => absurd hany hnamed⟩, .refl⟩

/-- The pool grants the port that a rule asks for, or any free one. -/
theorem Uses.grants
    (huses : Uses place (allocate place range container rule.hostPort.toUInt16) before (.ok port)
      after)
    (hfits : rule.hostPort.toUInt16.toUInt32 = rule.hostPort) :
    Grants place container rule before after port ∧ Keeps place before after := by
  rcases huses with ⟨⟨failure, hfailed⟩, _⟩ | ⟨tree, changed, htree, hrun, hafter⟩
  · cases hfailed
  · have hgranted : Grants place container rule tree changed port ∧ Keeps place tree changed := by
      by_cases hany : rule.hostPort = 0
      · rw [hany] at hrun
        exact grants_of_allocate_zero hany hrun
      · exact grants_of_allocate_explicit hany hfits hrun
    have hfirst : Keeps place before tree := htree.keeps
    have hlast : Keeps place changed after := hafter.keeps
    exact ⟨hgranted.1.widen hfirst hlast, (hfirst.trans hgranted.2).trans hlast⟩

end PortPool

/-! ## Calls beside the pool -/

theorem Call.SparesPool.of_kind {call : Call} {kinds : List CallKind} (hkind : call.kind ∈ kinds)
    (hother : ∀ kind ∈ [CallKind.allocatePort, .releaseAllPorts, .createNetwork, .deleteNetwork],
      kind ∉ kinds) : call.SparesPool := by
  cases call with
  | allocatePort _ _ | releaseAllPorts _ | createNetwork _ | deleteNetwork _ =>
      exact hother _ (by simp [kind]) hkind
  | _ => trivial

variable {σ α : Type} {place : FilePlace} {range : ManagedRange}
variable {respond : (call : Call) → σ → call.Answer × σ} {files : σ → FileTree} {sound : σ → Prop}
variable {state : σ} {settings : Settings} {enforcement : Enforcement} {container : String}

/-- An operation that has nothing to do with the pool leaves the pool file alone. -/
theorem ServesPool.spares (hserves : ServesPool place range respond files sound)
    {operation : Operation α} (hmakes : Makes Call.SparesPool operation) (hsound : sound state) :
    sound (runOn respond operation state).2 ∧
      PortPool.SameFile place (files (runOn respond operation state).2) (files state) := by
  apply hmakes.keeps fun after => sound after ∧ PortPool.SameFile place (files after) (files state)
  · rintro call after hspares ⟨hafter, hsame⟩
    refine ⟨hserves.sound_respond call after hafter, fun path hpath => ?_⟩
    exact (hserves.spared call after hspares hafter path hpath).trans (hsame path hpath)
  · exact ⟨hsound, fun _ _ => rfl⟩

/-! ## Inbound rules -/

/-- The entry that lets in the traffic to a port, where endpoint policies decide on it. -/
def Enforcement.entry? (address : Address) (port : UInt16) : Enforcement → Option AclEntry
  | policyEngine => some (PolicyEngine.inboundEntry address port)
  | firewall => none

/-- What an inbound rule comes to once a host port is found for it: what is reported, what is
forwarded and what is let in belong to the same two ports. -/
structure Inbound.Realizes (enforcement : Enforcement) (address : Address) (rule : InboundRule)
    (inbound : Inbound) : Prop where
  mapping : inbound.mapping = rule.mapping inbound.nat.externalPort
  protocol : inbound.nat.protocol = "TCP"
  containerPort : inbound.nat.internalPort.toUInt32 = rule.containerPort
  acl : inbound.acl = enforcement.entry? address inbound.nat.internalPort

namespace Enforcement

/-- Lets in the traffic of a forwarded port. -/
def letIn (enforcement : Enforcement) (container : String) (rule : InboundRule) (address : Address)
    (containerPort : UInt16) : Operation Unit := do
  if enforcement = .firewall then
    host (.call (.createRule (Firewall.inboundRule container address containerPort)))
  ContainerCommand.permitHttp container rule.containerPort

/-- Both ways of enforcement find a host port first and differ in how they let the traffic in. -/
theorem forward_eq (enforcement : Enforcement) (container : String) (rule : InboundRule)
    (address : Address) :
    enforcement.forward container rule address = (do
      let containerPort ← InboundRule.port rule.containerPort
      let hostPort ← rule.reserveHostPort container
      enforcement.letIn container rule address containerPort
      return {
        mapping := rule.mapping hostPort
        nat := .tcp containerPort hostPort
        acl := enforcement.entry? address containerPort }) := by
  cases enforcement with
  | policyEngine => simp only [forward, PolicyEngine.forward, letIn, entry?]; rfl
  | firewall => simp only [forward, Firewall.forward, letIn, entry?, if_true, bind_assoc]

theorem letIn_makes (enforcement : Enforcement) (container : String) (rule : InboundRule)
    (address : Address) (containerPort : UInt16) :
    Makes Call.SparesPool (enforcement.letIn container rule address containerPort) := by
  have hpermit : Makes Call.SparesPool
      (ContainerCommand.permitHttp container rule.containerPort) :=
    permitHttp_makes (fun _ _ => trivial) rule.containerPort ContainerCommand.defaultTimeout
  rw [letIn]
  split
  · exact (Makes.host (Plan.makes_call trivial)).bind fun _ => hpermit
  · exact hpermit

end Enforcement

theorem InboundRule.port_eq_ok {number : UInt32} {fitted : UInt16}
    (hport : (runOn respond (port number) state).1 = .ok fitted) :
    fitted = number.toUInt16 ∧ fitted.toUInt32 = number ∧
      (runOn respond (port number) state).2 = state := by
  rw [port] at hport ⊢
  split at hport
  case isTrue hfits =>
    cases hport
    rw [if_pos hfits]
    refine ⟨rfl, ?_, rfl⟩
    apply UInt32.toNat_inj.mp
    rw [UInt16.toNat_toUInt32, UInt32.toNat_toUInt16]
    exact Nat.mod_eq_of_lt hfits
  case isFalse hlarge => cases hport

namespace ServesPool

variable {rule : InboundRule} {address : Address}

/-- A host port is found as the pool grants it. -/
theorem reserveHostPort_grants (hserves : ServesPool place range respond files sound)
    (hsound : sound state) {hostPort : UInt16}
    (hreserve : (runOn respond (rule.reserveHostPort container) state).1 = .ok hostPort) :
    let after := (runOn respond (rule.reserveHostPort container) state).2
    sound after ∧
      PortPool.Grants place container rule (files state) (files after) hostPort ∧
      PortPool.Keeps place (files state) (files after) := by
  obtain ⟨requested, hrequested, hrest⟩ := runOn_bind_eq_ok hreserve
  obtain ⟨rfl, hfits, hsame⟩ := InboundRule.port_eq_ok hrequested
  rw [InboundRule.reserveHostPort, hrest] at hreserve ⊢
  rw [hsame, runOn_pool, Plan.call, Program.run] at hreserve ⊢
  have huses := hserves.allocatePort container rule.hostPort.toUInt16 state hsound
  rw [show (respond (.allocatePort container rule.hostPort.toUInt16) state).1 = .ok hostPort
    from hreserve] at huses
  exact ⟨hserves.sound_respond _ state hsound, huses.grants hfits⟩

/-- One inbound rule: the pool grants its host port, and all that it comes to goes by that port. -/
theorem forward_grants (hserves : ServesPool place range respond files sound)
    (hsound : sound state) {inbound : Inbound}
    (hforward : (runOn respond (enforcement.forward container rule address) state).1 =
      .ok inbound) :
    let after := (runOn respond (enforcement.forward container rule address) state).2
    sound after ∧ inbound.Realizes enforcement address rule ∧
      PortPool.Grants place container rule (files state) (files after) inbound.nat.externalPort ∧
      PortPool.Keeps place (files state) (files after) := by
  rw [Enforcement.forward_eq] at hforward ⊢
  obtain ⟨containerPort, hport, hrest⟩ := runOn_bind_eq_ok hforward
  obtain ⟨_, hfits, hsame⟩ := InboundRule.port_eq_ok hport
  rw [hrest, hsame] at hforward ⊢
  obtain ⟨hostPort, hreserve, hrest⟩ := runOn_bind_eq_ok hforward
  obtain ⟨hreserved, hgrants, hkeeps⟩ := hserves.reserveHostPort_grants hsound hreserve
  rw [hrest] at hforward ⊢
  obtain ⟨_, _, hrest⟩ := runOn_bind_eq_ok hforward
  obtain ⟨hafter, hspared⟩ := hserves.spares
    (enforcement.letIn_makes container rule address containerPort) hreserved
  rw [hrest] at hforward ⊢
  cases hforward
  exact ⟨hafter, ⟨rfl, rfl, hfits, rfl⟩, hgrants.widen .refl hspared.keeps,
    hkeeps.trans hspared.keeps⟩

/-- All inbound rules: each gets a host port over the whole run, and no two that ask for any port
get the same. -/
theorem forwardAll_grants (hserves : ServesPool place range respond files sound)
    (hsound : sound state) {rules : List InboundRule} {inbound : List Inbound}
    (hforward : (runOn respond
      (ContainerLifecycle.forwardAll settings container address rules) state).1 = .ok inbound) :
    let after := (runOn respond
      (ContainerLifecycle.forwardAll settings container address rules) state).2
    sound after ∧ PortPool.Keeps place (files state) (files after) ∧
      List.Forall₂ (fun rule value => value.Realizes settings.enforcement address rule ∧
        PortPool.Grants place container rule (files state) (files after) value.nat.externalPort)
        rules inbound ∧
      (rules.zip inbound).Pairwise fun first second => first.1.hostPort = 0 →
        second.1.hostPort = 0 → first.2.nat.externalPort ≠ second.2.nat.externalPort := by
  induction rules generalizing state inbound with
  | nil =>
      cases hforward
      exact ⟨hsound, .refl, .nil, .nil⟩
  | cons rule rest ih =>
      rw [ContainerLifecycle.forwardAll, List.mapM_cons] at hforward ⊢
      obtain ⟨value, hvalue, hrest⟩ := runOn_bind_eq_ok hforward
      obtain ⟨hbetween, hrealizes, hgrants, hkeeps⟩ := hserves.forward_grants hsound hvalue
      rw [hrest] at hforward ⊢
      obtain ⟨others, hothers, hrest⟩ := runOn_bind_eq_ok hforward
      rw [hrest] at hforward ⊢
      cases hforward
      obtain ⟨hafter, hkept, hgranted, hdistinct⟩ := ih hbetween hothers
      have hwidened : List.Forall₂ (fun rule value =>
          value.Realizes settings.enforcement address rule ∧ PortPool.Grants place container rule
            (files state) _ value.nat.externalPort) rest others :=
        hgranted.imp fun _ _ hvalue => ⟨hvalue.1, hvalue.2.widen hkeeps .refl⟩
      refine ⟨hafter, hkeeps.trans hkept,
        .cons ⟨hrealizes, hgrants.widen .refl hkept⟩ hwidened, ?_⟩
      -- A later port was free when the first one was reserved already.
      rw [List.zip_cons_cons, List.pairwise_cons]
      refine ⟨fun later hlater hany hother hsame => ?_, hdistinct⟩
      obtain ⟨_, hport⟩ := (List.forall₂_iff_zip.mp hgranted).2 hlater
      have hfree := hport.free hother
      rw [← hsame, hgrants.reserved hany] at hfree
      cases hfree

end ServesPool

end ContainerNetwork
