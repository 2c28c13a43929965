import ContainerNetwork.Proofs.Lifecycle.Report
import ContainerNetwork.Proofs.PortPool.Exhaustion

/-!
# Port zero

Zero stands for any port where one is asked for, and is a port like any other where the managed
range begins with it.  The pool then gives it out, and it is reported and forwarded.  Under all
other settings no port that is given out, reported or forwarded is zero.
-/

namespace ContainerNetwork

open Operation

namespace PortPool

variable {place : FilePlace} {range : ManagedRange} {handle : String} {tree : FileTree}
variable {requested port : UInt16}

/-- A port that is granted is the one that was asked for, or the lowest that is free. -/
theorem allocate_eq_ok
    (hrun : ((allocate place range handle requested).runOn tree).1 = .ok port) :
    (requested ≠ 0 ∧ port = requested) ∨
      (requested = 0 ∧ ∃ pool, standing? place tree = some pool ∧ port ∈ range.free pool ∧
        ∀ other ∈ range.free pool, port ≤ other) := by
  by_cases hany : requested = 0
  · rw [allocate, if_pos hany] at hrun
    rcases hupdate : (update place fun pool => range.acquire pool handle).runOn tree with
      ⟨result, after⟩
    rw [hupdate] at hrun
    rcases update_runOn hupdate with
      ⟨answer, pool, chosen, rfl, hbefore, hchoose, _⟩ | ⟨⟨failure, rfl⟩, _⟩
    · cases hrun
      obtain ⟨hcontains, hfree, _⟩ := ManagedRange.acquire_eq_ok hchoose
      exact .inr ⟨hany, pool, hbefore, ManagedRange.mem_free.mpr ⟨hcontains, hfree⟩,
        fun other hother => ManagedRange.le_of_acquire hchoose hother⟩
    · cases hrun
  · rw [allocate_explicit_runOn hany] at hrun
    split at hrun
    · cases hrun
    · cases hrun
      exact .inl ⟨hany, rfl⟩

/-- Zero is granted exactly where any port is asked for and zero is the lowest managed one, free. -/
theorem allocate_eq_zero_iff
    (hrun : ((allocate place range handle requested).runOn tree).1 = .ok port) :
    port = 0 ↔ range.start = 0 ∧ requested = 0 ∧ reservedFor? place tree 0 = none := by
  rcases allocate_eq_ok hrun with ⟨hnamed, rfl⟩ | ⟨rfl, pool, hpool, hfree, hlowest⟩
  · simp [hnamed]
  · obtain ⟨hcontains, hnone⟩ := ManagedRange.mem_free.mp hfree
    rw [reservedFor?, hpool, Option.bind_some]
    constructor
    · rintro rfl
      exact ⟨UInt16.toNat_inj.mp (Nat.le_zero.mp hcontains.1), rfl, hnone⟩
    · rintro ⟨hstart, -, hzero⟩
      have hmanaged : range.Contains 0 := by
        rw [ManagedRange.Contains, hstart] at hcontains ⊢
        exact ⟨Nat.le_refl _, Nat.lt_of_le_of_lt (Nat.zero_le _) hcontains.2⟩
      exact UInt16.le_zero_iff.mp (hlowest 0 (ManagedRange.mem_free.mpr ⟨hmanaged, hzero⟩))

/-- A pool that grants zero manages it. -/
theorem Uses.start_eq_zero {before after : FileTree}
    (huses : Uses place (allocate place range handle requested) before (.ok 0) after) :
    range.start = 0 := by
  rcases huses with ⟨⟨failure, hfailed⟩, _⟩ | ⟨tree, changed, _, hrun, _⟩
  · cases hfailed
  · exact ((allocate_eq_zero_iff (congrArg Prod.fst hrun)).mp rfl).1

end PortPool

/-- Zero is a managed port that was free and has become the container's. -/
structure ZeroReserved (place : FilePlace) (settings : Settings) (container : String)
    (before after : FileTree) : Prop where
  start : settings.startPort = 0
  free : PortPool.reservedFor? place before 0 = none
  reserved : PortPool.reservedFor? place after 0 = some container

variable {σ : Type} {place : FilePlace} {range : ManagedRange}
variable {respond : (call : Call) → σ → call.Answer × σ} {files : σ → FileTree} {sound : σ → Prop}
variable {state : σ} {settings : Settings} {enforcement : Enforcement} {container : String}

/-! ## Inbound rules -/

namespace ZeroReserved

variable {first before after last : FileTree}

theorem widen (hreserved : ZeroReserved place settings container before after)
    (hfirst : PortPool.Keeps place first before) (hlast : PortPool.Keeps place after last) :
    ZeroReserved place settings container first last where
  start := hreserved.start
  free := hfirst.free hreserved.free
  reserved := hlast 0 container hreserved.reserved

/-- A rule that names its host port does not name zero. -/
theorem of_grants {rule : InboundRule}
    (hgrants : PortPool.Grants place container rule before after 0)
    (hstart : settings.startPort = 0) : ZeroReserved place settings container before after := by
  have hany : rule.hostPort = 0 := by
    by_contra hnamed
    exact hnamed (hgrants.named hnamed).symm
  exact ⟨hstart, hgrants.free hany, hgrants.reserved hany⟩

end ZeroReserved

namespace ServesPool

variable {rule : InboundRule} {address : Address}

theorem reserveHostPort_zero (hserves : ServesPool place range respond files sound)
    (hsound : sound state)
    (hreserve : (runOn respond (rule.reserveHostPort container) state).1 = .ok 0) :
    range.start = 0 := by
  obtain ⟨requested, hrequested, hrest⟩ := runOn_bind_eq_ok hreserve
  obtain ⟨_, _, hsame⟩ := InboundRule.port_eq_ok hrequested
  rw [InboundRule.reserveHostPort, hrest, hsame, runOn_pool, Plan.call, Program.run] at hreserve
  have huses := hserves.allocatePort container requested state hsound
  rw [show (respond (.allocatePort container requested) state).1 = .ok 0 from hreserve] at huses
  exact huses.start_eq_zero

theorem forward_zero (hserves : ServesPool place range respond files sound)
    (hsound : sound state) {inbound : Inbound}
    (hforward : (runOn respond (enforcement.forward container rule address) state).1 =
      .ok inbound)
    (hzero : inbound.nat.externalPort = 0) : range.start = 0 := by
  rw [Enforcement.forward_eq] at hforward
  obtain ⟨containerPort, hport, hrest⟩ := runOn_bind_eq_ok hforward
  obtain ⟨_, _, hsame⟩ := InboundRule.port_eq_ok hport
  rw [hrest, hsame] at hforward
  obtain ⟨hostPort, hreserve, hrest⟩ := runOn_bind_eq_ok hforward
  rw [hrest] at hforward
  obtain ⟨_, _, hrest⟩ := runOn_bind_eq_ok hforward
  rw [hrest] at hforward
  cases hforward
  obtain rfl : hostPort = 0 := hzero
  exact hserves.reserveHostPort_zero hsound hreserve

/-- Zero is forwarded only where the pool found it free and now holds it. -/
theorem forwardAll_zero (hserves : ServesPool place settings.managedRange respond files sound)
    (hsound : sound state) {rules : List InboundRule} {inbound : List Inbound}
    (hforward : (runOn respond
      (ContainerLifecycle.forwardAll settings container address rules) state).1 = .ok inbound) :
    ∀ value ∈ inbound, value.mapping.hostPort = value.nat.externalPort.toUInt32 ∧
      (value.nat.externalPort = 0 → ZeroReserved place settings container (files state)
        (files (runOn respond
          (ContainerLifecycle.forwardAll settings container address rules) state).2)) := by
  obtain ⟨-, -, hgranted, -⟩ := hserves.forwardAll_grants hsound hforward
  have hstarts := runOn_mapM_eq_ok_of_keeps (fun rule value before hbefore hvalue =>
    (hserves.forward_grants hbefore hvalue).1) hsound hforward
  generalize (runOn respond _ state).2 = after at hgranted ⊢
  clear hforward
  induction hgranted with
  | nil => simp
  | @cons rule value rest others hhead _ ih =>
      cases hstarts with
      | cons hstart hstarts =>
          rw [List.forall_mem_cons]
          refine ⟨⟨?_, fun hzero => ?_⟩, ih hstarts⟩
          · rw [hhead.1.mapping, InboundRule.mapping]
          · obtain ⟨before, hbefore, hvalue⟩ := hstart
            have hgrants := hhead.2
            rw [hzero] at hgrants
            exact .of_grants hgrants (hserves.forward_zero hbefore hvalue hzero)

end ServesPool

/-! ## Reports and updates -/

/-- What is committed is what the answered updates ask for. -/
theorem commits_eq_updates {α : Type} (operation : Operation α) :
    commits respond operation state =
      (Event.ofKind .updateEndpoint (events respond operation state)).filterMap
        Event.committed? := by
  rw [commits, Event.ofKind, List.filterMap_filter]
  apply List.filterMap_congr
  rintro ⟨call, answer⟩ _
  cases call <;> rfl

theorem EndpointLifecycle.nat_mem_addedPolicies {nat : List PortForward} {acl : List AclEntry}
    {forward : PortForward} : .nat forward ∈ addedPolicies settings nat acl ↔ forward ∈ nat := by
  simp [addedPolicies]

/-- Zero is among the host ports that are reported, or among those that the policies which are added
to an endpoint forward. -/
def NamesZero (mappings : List PortMapping) (added : List Policy) : Prop :=
  (∃ mapping ∈ mappings, mapping.hostPort = 0) ∨
    ∃ forward, .nat forward ∈ added ∧ forward.externalPort = 0

namespace ContainerLifecycle

variable {request : Request} {endpoint : Endpoint} {report : Report}

/-- Putting rules in force: a zero among the reported or the forwarded ports is one that the pool
now holds for the container. -/
theorem install_zero (hserves : ServesPool place settings.managedRange respond files sound)
    (hsound : sound state)
    (hinstall : (runOn respond (install settings container request endpoint) state).1 =
      .ok report) :
    ∃ mappings added, report.mappedPorts? = some mappings ∧
      commits respond (install settings container request endpoint) state =
        [{ endpoint with policies := endpoint.policies ++ added }] ∧
      (NamesZero mappings added → ZeroReserved place settings container (files state)
        (files (runOn respond (install settings container request endpoint) state).2)) := by
  obtain ⟨address, haddress⟩ := exists_address_of_install hinstall
  rw [install_eq haddress] at hinstall ⊢
  obtain ⟨inbound, hforward, hrest⟩ := runOn_bind_eq_ok hinstall
  obtain ⟨hbetween, -⟩ := hserves.forwardAll_grants hsound hforward
  have hzero := hserves.forwardAll_zero hsound hforward
  have hkept := ((hserves.spares (settle_makes settings container request endpoint address inbound)
    hbetween).2).keeps
  rw [hrest] at hinstall ⊢
  obtain ⟨rfl, outbound, updated, _, hupdate⟩ := settle_updates hinstall
  refine ⟨inbound.map Inbound.mapping, EndpointLifecycle.addedPolicies settings
    (inbound.map Inbound.nat) (inbound.filterMap Inbound.acl ++ outbound.filterMap id),
    LawfulWire.read?_text _, ?_, fun hport => ?_⟩
  · rw [commits_eq_updates, events_bind_of_ok hforward, Event.ofKind_append,
      (forwardAll_makes _ _ _ _).ofKind_updateEndpoint, hupdate]
    rfl
  · obtain ⟨value, hvalue, hexternal⟩ : ∃ value ∈ inbound, value.nat.externalPort = 0 := by
      rcases hport with ⟨mapping, hmapping, hhost⟩ | ⟨forward, hadded, hexternal⟩
      · obtain ⟨value, hvalue, rfl⟩ := List.mem_map.mp hmapping
        rw [(hzero value hvalue).1] at hhost
        exact ⟨value, hvalue, UInt16.toUInt32_inj.mp hhost⟩
      · obtain ⟨value, hvalue, rfl⟩ :=
          List.mem_map.mp (EndpointLifecycle.nat_mem_addedPolicies.mp hadded)
        exact ⟨value, hvalue, hexternal⟩
    exact ((hzero value hvalue).2 hexternal).widen .refl hkept

/-- A container comes up as its endpoint is created and then its rules are put in force. -/
theorem up_eq_ok {handle : Handle}
    (hup : (runOn respond (up settings handle request) state).1 = .ok report) :
    ∃ attached, (runOn respond (EndpointLifecycle.create settings handle.text) state).1 =
        .ok attached ∧
      let joined := (runOn respond (EndpointLifecycle.create settings handle.text) state).2
      (runOn respond (install settings handle.text request attached) joined).1 = .ok report ∧
        (runOn respond (up settings handle request) state).2 =
          (runOn respond (install settings handle.text request attached) joined).2 ∧
        events respond (up settings handle request) state =
          events respond (EndpointLifecycle.create settings handle.text) state ++
            events respond (install settings handle.text request attached) joined := by
  rw [up_eq] at hup ⊢
  split at hup
  case isTrue hmany => cases hup
  case isFalse hfew =>
    simp only [if_neg hfew]
    obtain ⟨attached, hcreate, hrest⟩ := runOn_bind_eq_ok hup
    rw [hrest] at hup ⊢
    obtain ⟨hinstall, hevents⟩ := orUndo_of_ok hup
    refine ⟨attached, hcreate, hinstall, congrArg Prod.snd (runOn_orUndo_of_ok hup), ?_⟩
    rw [events_bind_of_ok hcreate, hevents]

/-- Zero is granted exactly where it is the lowest managed port and free; and a container that came
up is told of a port zero, or has one forwarded, only where the pool now holds zero for it. -/
theorem port_zero_needs_zero_start (settings : Settings) :
    (∀ place handle requested tree port,
      ((PortPool.allocate place settings.managedRange handle requested).runOn tree).1 = .ok port →
        (port = 0 ↔ settings.startPort = 0 ∧ requested = 0 ∧
          PortPool.reservedFor? place tree 0 = none)) ∧
      ∀ {σ : Type} (place : FilePlace) (respond : (call : Call) → σ → call.Answer × σ)
        (files : σ → FileTree) (sound : σ → Prop) (state : σ) (handle : Handle)
        (request : Request) (report : Report),
        ServesPool place settings.managedRange respond files sound → sound state →
        (runOn respond (up settings handle request) state).1 = .ok report →
          ∃ mappings id attached added, report.mappedPorts? = some mappings ∧
            (⟨.endpointById id, .ok attached⟩ : Event) ∈
              events respond (up settings handle request) state ∧
            commits respond (up settings handle request) state =
              [{ attached with policies := attached.policies ++ added }] ∧
            (NamesZero mappings added → ZeroReserved place settings handle.text (files state)
              (files (runOn respond (up settings handle request) state).2)) := by
  refine ⟨fun place handle requested tree port => PortPool.allocate_eq_zero_iff, ?_⟩
  intro σ place respond files sound state handle request report hserves hsound hup
  have hcreates : Makes Call.SparesPool (EndpointLifecycle.create settings handle.text) :=
    EndpointLifecycle.create_makes settings (fun _ => trivial) (fun _ _ => trivial)
      (fun _ _ hattaches => .of_kind hattaches.kind_mem (by decide)) fun _ => trivial
  obtain ⟨attached, hcreate, hinstall, hafter, hevents⟩ := up_eq_ok hup
  obtain ⟨id, hdescribed⟩ := EndpointLifecycle.create_described hcreate
  obtain ⟨hjoined, hsame⟩ := hserves.spares hcreates hsound
  obtain ⟨mappings, added, hreport, hcommits, hzero⟩ := install_zero hserves hjoined hinstall
  refine ⟨mappings, id, attached, added, hreport, ?_, ?_, fun hport => ?_⟩
  · rw [hevents]
    exact List.mem_append_left _ hdescribed
  · calc commits respond (up settings handle request) state
      _ = commits respond (EndpointLifecycle.create settings handle.text) state ++
          commits respond (install settings handle.text request attached) _ := by
        rw [commits, hevents, List.filterMap_append]
        rfl
      _ = _ := by
        rw [(EndpointLifecycle.create_commitsNothing _ _).commits_eq_nil, hcommits, List.nil_append]
  · rw [hafter]
    exact (hzero hport).widen hsame.keeps .refl

/-- Under the default range, neither the pool nor a container that came up has port zero. -/
theorem no_port_zero_of_default_range :
    let settings : Settings := { enforcement := .policyEngine }
    let respond := SimulatedHost.respond settings.managedRange
    let request : Request := { inbound := [⟨0, 8080⟩, ⟨9000, 9090⟩] }
    let handle : Handle := ⟨"container", by decide⟩
    (∃ port, ((PortPool.allocate ⟨["var"], "pool.json"⟩ settings.managedRange "container" 0).runOn
        ⟨[]⟩).1 = .ok port ∧ port ≠ 0) ∧
      ∃ report mappings, (runOn respond (up settings handle request) .ready).1 = .ok report ∧
        report.mappedPorts? = some mappings ∧ ∀ mapping ∈ mappings, mapping.hostPort ≠ 0 := by
  intro settings respond request handle
  obtain ⟨hallocates, hups⟩ := port_zero_needs_zero_start settings
  have hstart : settings.startPort ≠ 0 := by decide
  have hallocated : Except.isOk ((PortPool.allocate ⟨["var"], "pool.json"⟩ settings.managedRange
      "container" 0).runOn ⟨[]⟩).1 := by decide +kernel
  have hup : Except.isOk (runOn respond (up settings handle request) .ready).1 := by
    decide +kernel
  constructor
  · obtain ⟨port, hport⟩ := isOk_iff.mp hallocated
    exact ⟨port, hport, fun hzero => hstart ((hallocates _ _ _ _ _ hport).mp hzero).1⟩
  · obtain ⟨report, hup⟩ := isOk_iff.mp hup
    have hserves : ServesPool SimulatedHost.poolPlace settings.managedRange respond
        SimulatedHost.files SimulatedHost.Sound :=
      (SimulatedHost.faithful settings.managedRange).servesPool
    obtain ⟨mappings, _, _, _, hreport, _, _, hzero⟩ :=
      hups _ _ _ _ _ handle request report hserves SimulatedHost.ready_sound hup
    exact ⟨report, mappings, hup, hreport, fun mapping hmapping hport =>
      hstart (hzero (.inl ⟨mapping, hmapping, hport⟩)).start⟩

/-- Under a range from zero on, zero is given out, reported and forwarded. -/
theorem port_zero_reported_of_zero_start :
    let text := "\x7b\"enforcement\":\"policy_engine\",\"start_port\":0\x7d"
    let settings : Settings := { enforcement := .policyEngine, startPort := 0 }
    let respond := SimulatedHost.respond settings.managedRange
    let request : Request := { inbound := [⟨0, 8080⟩] }
    let handle : Handle := ⟨"container", by decide⟩
    let report := (runOn respond (up settings handle request) .ready).1.toOption
    (Settings.ofText text).toOption = some settings ∧
      ((PortPool.allocate ⟨["var"], "pool.json"⟩ settings.managedRange "container" 0).runOn
        ⟨[]⟩).1.toOption = some 0 ∧
      report.bind Report.mappedPorts? = some [⟨0, 8080⟩] ∧
      (commits respond (up settings handle request) .ready).map Endpoint.policies =
        [[.nat (.tcp 8080 0),
          .acl (PolicyEngine.inboundEntry (.ofOctets 172 30 0 2) 8080)]] := by
  decide +kernel

end ContainerLifecycle

end ContainerNetwork
