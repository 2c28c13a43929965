import ContainerNetwork.Proofs.Enforcement.Entries
import ContainerNetwork.Proofs.Lifecycle.Milestones

/-!
# Containers without outbound rules

Where endpoint policies enforce the rules, a container that is brought up without any rule may send
nothing.  A container with inbound rules alone is not restricted in what it sends, unless its
endpoint had a policy against it before.
-/

namespace ContainerNetwork

open Operation

variable {σ : Type} {respond : (call : Call) → σ → call.Answer × σ} {state : σ}
variable {settings : Settings} {container : String} {α : Type}

/-! ## Blocked traffic -/

def Policy.BlocksAll (direction : Direction) : Policy → Prop
  | acl entry => entry.BlocksAll direction
  | nat _ | qos _ => False

instance (direction : Direction) : DecidablePred (Policy.BlocksAll direction)
  | .acl entry => inferInstanceAs (Decidable (entry.BlocksAll direction))
  | .nat _ | .qos _ => isFalse id

/-- Whether some policy blocks all outbound traffic. -/
def DeniesOutbound (policies : List Policy) : Prop :=
  ∃ policy ∈ policies, policy.BlocksAll .outbound

instance : DecidablePred DeniesOutbound := fun _ => inferInstanceAs (Decidable (∃ _ ∈ _, _))

theorem deniesOutbound_append {policies others : List Policy} :
    DeniesOutbound (policies ++ others) ↔ DeniesOutbound policies ∨ DeniesOutbound others := by
  simp only [DeniesOutbound, List.mem_append, or_and_right, exists_or]

theorem deniesOutbound_acl {entries : List AclEntry} :
    DeniesOutbound (entries.map .acl) ↔ ∃ entry ∈ entries, entry.BlocksAll .outbound := by
  simp [DeniesOutbound, Policy.BlocksAll]

theorem not_deniesOutbound_nat (forwards : List PortForward) :
    ¬DeniesOutbound (forwards.map .nat) := by
  simp [DeniesOutbound, Policy.BlocksAll]

/-- The added policies deny outbound traffic where no entry is given, or an entry does. -/
theorem EndpointLifecycle.deniesOutbound_added (hengine : settings.enforcement = .policyEngine)
    (nat : List PortForward) (acl : List AclEntry) :
    DeniesOutbound (addedPolicies settings nat acl) ↔
      acl = [] ∨ ∃ entry ∈ acl, entry.BlocksAll .outbound := by
  rw [addedPolicies, deniesOutbound_append, deniesOutbound_acl,
    or_iff_right (not_deniesOutbound_nat _)]
  by_cases hnone : acl = []
  · have hdenied : ∃ entry ∈ PolicyEngine.denyAll, entry.BlocksAll .outbound :=
      ⟨.blocking .outbound, List.mem_cons_self, PolicyEngine.blocksAll_blocking .outbound⟩
    simp only [hnone, hengine, and_self, if_true, true_or, iff_true]
    exact hdenied
  · simp only [hnone, false_and, if_false, false_or]

/-! ## Committed policies -/

/-- The endpoint that a call commits to the host. -/
def Event.committed? : Event → Option Endpoint
  | ⟨.updateEndpoint endpoint, .ok _⟩ => some endpoint
  | _ => none

def Call.CommitsNothing : Call → Prop
  | updateEndpoint _ => False
  | _ => True

theorem Call.CommitsNothing.of_kind {call : Call} {kinds : List CallKind}
    (hkind : call.kind ∈ kinds) (hother : CallKind.updateEndpoint ∉ kinds) :
    call.CommitsNothing := by
  cases call with
  | updateEndpoint endpoint => exact hother hkind
  | _ => trivial

theorem Event.committed?_eq_none {event : Event} (hnothing : event.call.CommitsNothing) :
    event.committed? = none := by
  obtain ⟨call, answer⟩ := event
  cases call with
  | updateEndpoint endpoint => exact hnothing.elim
  | _ => rfl

/-- An operation that commits nothing asks for no update. -/
theorem Operation.Makes.ofKind_updateEndpoint {operation : Operation α}
    (hmakes : Makes Call.CommitsNothing operation) :
    Event.ofKind .updateEndpoint (events respond operation state) = [] := by
  apply Event.ofKind_eq_nil
  intro event hevent hkind
  have hnothing := hmakes.allowed_of_mem_events hevent
  obtain ⟨call, answer⟩ := event
  cases call with
  | updateEndpoint asked => exact hnothing
  | _ => cases hkind

/-- The endpoints that an operation commits, in their order. -/
def commits (respond : (call : Call) → σ → call.Answer × σ) (operation : Operation α) (state : σ) :
    List Endpoint :=
  (events respond operation state).filterMap Event.committed?

theorem Operation.Makes.commits_eq_nil {operation : Operation α}
    (hmakes : Makes Call.CommitsNothing operation) : commits respond operation state = [] := by
  rw [commits, List.filterMap_eq_nil_iff]
  intro event hevent
  exact Event.committed?_eq_none (hmakes.allowed_of_mem_events hevent)

theorem commits_bind_of_ok {β : Type} {operation : Operation α} {next : α → Operation β}
    {middle : α} (hrun : (runOn respond operation state).1 = .ok middle) :
    commits respond (operation >>= next) state =
      commits respond operation state ++
        commits respond (next middle) (runOn respond operation state).2 := by
  rw [commits, events_bind_of_ok hrun, List.filterMap_append]
  rfl

/-! ## The endpoint that is attached -/

namespace EndpointLifecycle

theorem create_commitsNothing (settings : Settings) (container : String) :
    Makes Call.CommitsNothing (create settings container) :=
  create_makes settings (fun _ => trivial) (fun _ _ => trivial)
    (fun _ _ hattaches => .of_kind hattaches.kind_mem (by decide)) fun _ => trivial

/-- The endpoint that creating one gives is the one that was created, as the host describes it. -/
theorem create_joined {attached : Endpoint}
    (hcreate : (runOn respond (create settings container) state).1 =
      .ok attached) :
    ∃ asked created,
      ⟨.createEndpoint asked, .ok created⟩ ∈
        events respond (create settings container) state ∧
      ⟨.endpointById created.id, .ok attached⟩ ∈
        events respond (create settings container) state := by
  obtain ⟨passed, hpassed, hsublist⟩ :=
    (create_reaches settings container {}).ends_of_ok hcreate
  cases hpassed with
  | @joined asked created closing hname hclosing =>
      exact ⟨asked, created, hsublist.subset (List.mem_append_left _ (by simp)),
        hsublist.subset (List.mem_append_left _ (by simp))⟩

/-- The endpoint that is created for a container is one that the host describes. -/
theorem create_described {attached : Endpoint}
    (hcreate : (runOn respond (create settings container) state).1 = .ok attached) :
    ∃ id, ⟨.endpointById id, .ok attached⟩ ∈ events respond (create settings container) state := by
  obtain ⟨asked, created, _, hdescribed⟩ := create_joined hcreate
  exact ⟨created.id, hdescribed⟩

end EndpointLifecycle

/-! ## The rules that are put in force -/

/-- A port is forwarded with an entry that lets its traffic in. -/
theorem PolicyEngine.forward_eq_ok {rule : InboundRule} {address : Address} {inbound : Inbound}
    (hforward : (runOn respond (forward container rule address) state).1 = .ok inbound) :
    ∃ port, inbound.acl = some (inboundEntry address port) := by
  obtain ⟨port, _, hrest⟩ := runOn_bind_eq_ok hforward
  rw [forward, hrest] at hforward
  obtain ⟨hostPort, _, hrest⟩ := runOn_bind_eq_ok hforward
  rw [hrest] at hforward
  obtain ⟨_, _, hrest⟩ := runOn_bind_eq_ok hforward
  rw [hrest] at hforward
  cases hforward
  exact ⟨port, rfl⟩

/-- Applying policies updates the endpoint once. -/
theorem EndpointLifecycle.applyPolicies_updates {endpoint : Endpoint} {nat : List PortForward}
    {acl : List AclEntry}
    (happly : (runOn respond (discard (applyPolicies settings endpoint nat acl)) state).1 =
      .ok ()) :
    ∃ updated, events respond (discard (applyPolicies settings endpoint nat acl)) state =
      [⟨.updateEndpoint
        { endpoint with policies := endpoint.policies ++ addedPolicies settings nat acl },
        .ok updated⟩] := by
  rw [events_discard, applyPolicies, events_host, Plan.call, Plan.log]
  rw [runOn_discard, applyPolicies, runOn_host, Plan.call, Program.run] at happly
  generalize respond _ state = responded at happly ⊢
  obtain ⟨answer, after⟩ := responded
  cases answer with
  | error fault => cases happly
  | ok updated => exact ⟨updated, rfl⟩

/-- Applying policies commits the endpoint with its own policies and the added ones. -/
theorem EndpointLifecycle.applyPolicies_commits {endpoint : Endpoint} {nat : List PortForward}
    {acl : List AclEntry}
    (happly : (runOn respond (discard (applyPolicies settings endpoint nat acl)) state).1 =
      .ok ()) :
    commits respond (discard (applyPolicies settings endpoint nat acl)) state =
      [{ endpoint with policies := endpoint.policies ++ addedPolicies settings nat acl }] := by
  obtain ⟨updated, hevents⟩ := applyPolicies_updates happly
  rw [commits, hevents]
  rfl

namespace ContainerLifecycle

/-- The entries of forwarded ports are none only where no port is forwarded, and block nothing. -/
theorem forwardAll_denies (hengine : settings.enforcement = .policyEngine) {address : Address}
    {rules : List InboundRule} {inbound : List Inbound}
    (hforward : (runOn respond (forwardAll settings container address rules) state).1 =
      .ok inbound) :
    (inbound.filterMap Inbound.acl = [] ∨
        ∃ entry ∈ inbound.filterMap Inbound.acl, entry.BlocksAll .outbound) ↔ rules = [] := by
  have hentries : List.Forall₂ (fun _ value => ∃ port, value.acl =
      some (PolicyEngine.inboundEntry address port)) rules inbound := by
    refine (runOn_mapM_eq_ok hforward).imp fun rule value ⟨before, hvalue⟩ => ?_
    rw [hengine] at hvalue
    exact PolicyEngine.forward_eq_ok hvalue
  have hallow : ¬∃ entry ∈ inbound.filterMap Inbound.acl, entry.BlocksAll .outbound := by
    clear hforward
    induction hentries with
    | nil => simp
    | cons hhead _ ih =>
        obtain ⟨port, hacl⟩ := hhead
        rw [List.filterMap_cons_some hacl]
        simpa [PolicyEngine.not_blocksAll_inboundEntry] using ih
  rw [or_iff_left hallow]
  cases hentries with
  | nil => simp
  | cons hhead _ =>
      obtain ⟨port, hacl⟩ := hhead
      simp [hacl]

theorem forwardAll_makes (settings : Settings) (container : String) (address : Address)
    (rules : List InboundRule) :
    Makes Call.CommitsNothing (forwardAll settings container address rules) := by
  apply Makes.mapM
  intro rule
  exact (Enforcement.forward_makes settings.enforcement container rule address).mono
    fun _ hforwards => .of_kind hforwards.kind_mem (by decide)

/-- Putting in force a request without outbound rules commits the endpoint once, with policies that
deny outbound traffic only where no port is forwarded. -/
theorem install_commits (hengine : settings.enforcement = .policyEngine) {request : Request}
    (houtbound : request.outbound = []) {endpoint : Endpoint} {report : Report}
    (hinstall : (runOn respond (install settings container request endpoint) state).1 =
      .ok report) :
    ∃ added, (DeniesOutbound added ↔ request.inbound = []) ∧
      commits respond (install settings container request endpoint) state =
        [{ endpoint with policies := endpoint.policies ++ added }] := by
  rw [install] at hinstall ⊢
  split at hinstall
  · rename_i address haddress
    simp only [houtbound] at hinstall ⊢
    obtain ⟨inbound, hforward, hrest⟩ := runOn_bind_eq_ok hinstall
    rw [hrest] at hinstall
    rw [commits_bind_of_ok hforward, (forwardAll_makes _ _ _ _).commits_eq_nil,
      List.nil_append]
    obtain ⟨outbound, hpermit, hrest⟩ := runOn_bind_eq_ok hinstall
    rw [hrest] at hinstall
    rw [commits_bind_of_ok hpermit]
    obtain rfl : outbound = [] := by
      cases hpermit
      rfl
    simp only [List.filterMap_nil, List.append_nil] at hinstall ⊢
    obtain ⟨_, happly, _⟩ := runOn_bind_eq_ok hinstall
    rw [commits_bind_of_ok happly, EndpointLifecycle.applyPolicies_commits happly]
    have hmtu : Makes Call.CommitsNothing (EndpointLifecycle.setMtu settings container) :=
      (EndpointLifecycle.setMtu_makes settings container).mono fun _ hadapts =>
        .of_kind hadapts.kind_mem (by decide)
    refine ⟨EndpointLifecycle.addedPolicies settings (inbound.map Inbound.nat)
      (inbound.filterMap Inbound.acl), ?_, ?_⟩
    · rw [EndpointLifecycle.deniesOutbound_added hengine, forwardAll_denies hengine hforward]
    · rw [(hmtu.discard.bind fun _ => .pure _).commits_eq_nil]
      rfl
  · cases hinstall

/-- A container that is brought up without outbound rules is committed once.  Unless its endpoint
has a policy against all outbound traffic before, what is committed has one only where there are no
inbound rules either. -/
theorem default_deny {handle : Handle} {request : Request} {report : Report}
    (hengine : settings.enforcement = .policyEngine) (houtbound : request.outbound = [])
    (hup : (runOn respond (up settings handle request) state).1 = .ok report) :
    ∃ id attached committed,
      (⟨.endpointById id, .ok attached⟩ : Event) ∈
        events respond (up settings handle request) state ∧
      commits respond (up settings handle request) state = [committed] ∧
      (∃ added, committed = { attached with policies := attached.policies ++ added }) ∧
      (DeniesOutbound committed.policies ↔
        request.inbound = [] ∨ DeniesOutbound attached.policies) := by
  rw [up_eq] at hup ⊢
  split at hup
  · cases hup
  · rename_i hfew
    simp only [if_neg hfew]
    obtain ⟨attached, hcreate, hrest⟩ := runOn_bind_eq_ok hup
    rw [hrest] at hup
    obtain ⟨hinstall, hevents⟩ := orUndo_of_ok hup
    obtain ⟨id, hdescribed⟩ := EndpointLifecycle.create_described hcreate
    obtain ⟨added, hadded, hcommits⟩ := install_commits hengine houtbound hinstall
    refine ⟨id, attached, { attached with policies := attached.policies ++ added }, ?_, ?_,
      ⟨added, rfl⟩, ?_⟩
    · rw [events_bind_of_ok hcreate]
      exact List.mem_append_left _ hdescribed
    · rw [commits_bind_of_ok hcreate,
        (EndpointLifecycle.create_commitsNothing _ _).commits_eq_nil, commits, hevents]
      exact hcommits
    · rw [deniesOutbound_append, hadded, or_comm]

/-- A host with the shared network and nothing else. -/
def idleHost : SimulatedHost where
  networks := [{ id := "net-1", name := "sluice-nat" }]

/-- Without any rule, nothing may be sent. -/
theorem default_deny_of_no_rules :
    let handle : Handle := ⟨"container", by decide⟩
    let settings : Settings := { enforcement := .policyEngine }
    let respond := SimulatedHost.respond ⟨40000, 10⟩
    Except.isOk (runOn respond (up settings handle {}) idleHost).1 ∧
      ∃ committed, commits respond (up settings handle {}) idleHost = [committed] ∧
        DeniesOutbound committed.policies := by
  intro handle settings respond
  have hok : Except.isOk (runOn respond (up settings handle {}) idleHost).1 := by decide +kernel
  obtain ⟨report, hup⟩ := isOk_iff.mp hok
  obtain ⟨_, _, committed, _, hcommits, _, hdenies⟩ := default_deny rfl rfl hup
  exact ⟨hok, committed, hcommits, hdenies.mpr (.inl rfl)⟩

/-- With one inbound rule and none for outbound traffic, everything may be sent. -/
theorem outbound_open_of_inbound_rule :
    let handle : Handle := ⟨"container", by decide⟩
    let settings : Settings := { enforcement := .policyEngine }
    let request : Request := { inbound := [⟨0, 8080⟩] }
    let respond := SimulatedHost.respond ⟨40000, 10⟩
    let policies : List Policy :=
      [.nat (.tcp 8080 40000), .acl (PolicyEngine.inboundEntry (.ofOctets 172 30 0 2) 8080)]
    request.outbound = [] ∧ Except.isOk (runOn respond (up settings handle request) idleHost).1 ∧
      (commits respond (up settings handle request) idleHost).map Endpoint.policies = [policies] ∧
      ¬DeniesOutbound policies := by
  decide +kernel

end ContainerLifecycle

end ContainerNetwork
