import ContainerNetwork.Proofs.Host.PoolService
import ContainerNetwork.Proofs.Lifecycle.Milestones

/-!
# Containers apart from each other

Bringing a container up or taking it down touches what belongs to that container and nothing of
another, whatever the host answers: its firewall rules go by its handle, its endpoints are those
that the host returned for it, and the ports of other handles stay theirs.
-/

namespace ContainerNetwork

open Operation

/-! ## Calls for one handle -/

/-- The endpoints that the host has returned for a handle: one created for it, one described by the
identifier of such a one, or one found by its name. -/
inductive Returned (handle : String) (history : List Event) (endpoint : Endpoint) : Prop
  | created {asked : Endpoint} (hname : asked.name = handle)
      (hcreated : ⟨.createEndpoint asked, .ok endpoint⟩ ∈ history)
  | described {asked created : Endpoint} (hname : asked.name = handle)
      (hcreated : ⟨.createEndpoint asked, .ok created⟩ ∈ history)
      (hdescribed : ⟨.endpointById created.id, .ok endpoint⟩ ∈ history)
  | found (hfound : ⟨.endpointByName handle, .ok endpoint⟩ ∈ history)

/-- The calls that touch nothing but what belongs to a handle, after a history. -/
def Confined (handle : String) (history : List Event) : Call → Prop
  | .createEndpoint asked => asked.name = handle
  | .updateEndpoint asked => ∃ endpoint added, Returned handle history endpoint ∧
      asked = { endpoint with policies := endpoint.policies ++ added }
  | .deleteEndpoint endpoint => Returned handle history endpoint
  | .attachEndpoint container id | .detachEndpoint container id =>
      container = handle ∧ ∃ endpoint, Returned handle history endpoint ∧ endpoint.id = id
  | .createRule rule => rule.name = handle
  | .deleteRule name => name = handle ∨
      (∃ allocator : Allocator, name =
        "Compartment " ++ Decimal.text allocator.compartment.toNat ++ " - " ++
          allocator.portGuid) ∧ ∀ other : Handle, other.text ≠ name
  | .exec container _ _ => container = handle
  | .setAdapterMtu adapter _ => adapter = "vEthernet (" ++ handle ++ ")"
  | .allocatePort holder _ | .releaseAllPorts holder => holder = handle
  | .createNetwork _ | .deleteNetwork _ => False
  | _ => True

variable {settings : Settings} {handle id : String} {history more : List Event}
variable {endpoint : Endpoint} {call : Call}

theorem Returned.append (hreturned : Returned handle history endpoint) :
    Returned handle (history ++ more) endpoint := by
  cases hreturned with
  | created hname hcreated => exact .created hname (List.mem_append_left _ hcreated)
  | described hname hcreated hdescribed =>
      exact .described hname (List.mem_append_left _ hcreated) (List.mem_append_left _ hdescribed)
  | found hfound => exact .found (List.mem_append_left _ hfound)

namespace Call

theorem Attaches.confined (hattaches : call.Attaches handle endpoint.id)
    (hreturned : Returned handle history endpoint) : Confined handle history call := by
  cases call with
  | attachEndpoint container id =>
      obtain ⟨rfl, rfl⟩ := hattaches
      exact ⟨rfl, endpoint, hreturned, rfl⟩
  | deleteRule name =>
      obtain ⟨allocator, rfl⟩ := hattaches
      refine .inr ⟨⟨allocator, rfl⟩, fun other hother => ?_⟩
      exact allocator.generatedRule_not_isValid (hother ▸ other.valid)
  | adapterExists _ | endpointById _ | ruleExists _ | sleep _ => trivial
  | _ => exact hattaches.elim

theorem Installs.confined {enforcement : Enforcement}
    (hinstalls : call.Installs enforcement handle endpoint)
    (hreturned : Returned handle history endpoint) : Confined handle history call := by
  rcases hinstalls with hforwards | hpermits | hcommits | hadapts
  · cases call with
    | allocatePort holder port => exact hforwards
    | exec container command timeout => exact hforwards
    | createRule rule => exact hforwards.2.1
    | _ => exact hforwards.elim
  · cases call with
    | createRule rule => exact hpermits.2.1
    | _ => exact hpermits.elim
  · cases call with
    | updateEndpoint asked =>
        obtain ⟨added, rfl⟩ := hcommits
        exact ⟨endpoint, added, hreturned, rfl⟩
    | _ => exact hcommits.elim
  · cases call with
    | adapterMtu adapter => trivial
    | setAdapterMtu adapter mtu => exact hadapts
    | _ => exact hadapts.elim

theorem Withdraws.confined {enforcement : Enforcement}
    (hwithdraws : call.Withdraws enforcement handle) : Confined handle history call := by
  cases call with
  | releaseAllPorts holder => exact hwithdraws
  | deleteRule name => exact .inl hwithdraws.2
  | _ => exact hwithdraws.elim

end Call

/-! ## The way up and the way down -/

namespace EndpointLifecycle

theorem createRetrying_confined {asked : Endpoint} (hname : asked.name = handle) (retries : Nat)
    (history : List Event) :
    Heeds (Confined handle) (fun created after =>
        ⟨.createEndpoint asked, .ok created⟩ ∈ after)
      (createRetrying asked retries) history := by
  have hmakes : Makes (.createEndpoint asked = ·) (createRetrying asked retries) :=
    createRetrying_makes rfl retries
  refine ((createRetrying_reaches asked retries history).within hmakes ?_).imp ?_
  · rintro more _ _ rfl
    exact hname
  · rintro created added ⟨hadds, _⟩
    exact hadds.mem (List.mem_singleton.mpr rfl)

/-- An endpoint that was created for a handle is attached for it, and described by the host. -/
theorem attach_confined {asked created : Endpoint} (hname : asked.name = handle)
    (hcreated : ⟨.createEndpoint asked, .ok created⟩ ∈ history) :
    Heeds (Confined handle) (fun attached after => Returned handle after attached)
      (attach settings handle created) history := by
  refine ((attach_reaches settings handle created history).within
    (attach_makes settings handle created) ?_).imp ?_
  · intro more call _ hattaches
    exact hattaches.confined (.created hname (List.mem_append_left _ hcreated))
  · rintro attached added ⟨⟨closing, _, hadds⟩, _⟩
    exact .described hname (List.mem_append_left _ hcreated) (hadds.mem (by simp))

theorem create_confined (settings : Settings) (handle : String) (history : List Event) :
    Heeds (Confined handle) (fun attached after => Returned handle after attached)
      (create settings handle) history := by
  rw [create_eq]
  have hlookup : Heeds (Confined handle) (fun _ _ => True)
      (host (.call (.networkByName settings.networkName)) : Operation Network) history :=
    .host (Plan.heeds_call (.networkByName settings.networkName) trivial fun _ _ _ => trivial)
  apply hlookup.bind
  intro network looking _
  apply (createRetrying_confined (by rfl) (createAttempts - 1) _).bind
  intro created creating hcreated
  refine .orUndo (attach_confined (by rfl) hcreated) fun attaching => ?_
  refine .host (Plan.heeds_call (.deleteEndpoint created) ?_ fun _ _ _ => trivial)
  exact Returned.append (.created rfl hcreated)

theorem delete_confined (handle : String) (history : List Event) :
    Heeds (Confined handle) (fun _ _ => True) (delete handle) history := by
  have hlookup : Heeds (Confined handle)
      (fun endpoint after => Returned handle after endpoint)
      (host (.call (.endpointByName handle))) history := by
    refine .host (Plan.heeds_call (.endpointByName handle) trivial ?_)
    rintro _ endpoint rfl
    exact .found (List.mem_append_right _ (List.mem_singleton.mpr rfl))
  apply hlookup.result.bind
  intro answer looking hanswer
  split
  · exact .pure trivial
  · exact .throw _
  · rename_i endpoint
    have hreturned := hanswer endpoint rfl
    have hdetach : Heeds (Confined handle) (fun _ _ => True)
        (host (.call (.detachEndpoint handle endpoint.id)) : Operation Unit)
        (history ++ looking) :=
      .host (Plan.heeds_call (.detachEndpoint handle endpoint.id) ⟨rfl, endpoint, hreturned, rfl⟩
        fun _ _ _ => trivial)
    apply hdetach.result.bind
    intro detached detaching _
    have hdelete : Heeds (Confined handle) (fun _ _ => True)
        (host (.call (.deleteEndpoint endpoint)) : Operation Unit)
        (history ++ looking ++ detaching) :=
      .host (Plan.heeds_call (.deleteEndpoint endpoint) hreturned.append fun _ _ _ => trivial)
    apply hdelete.result.bind
    intro deleted deleting _
    exact .ofExcept fun _ _ => trivial

end EndpointLifecycle

namespace ContainerLifecycle

theorem down_confined (settings : Settings) (handle : Handle) (history : List Event) :
    Heeds (Confined handle.text) (fun _ _ => True) (down settings handle) history := by
  apply (EndpointLifecycle.delete_confined handle.text history).result.bind
  intro deleted deleting _
  have hwithdraw : Heeds (Confined handle.text) (fun _ _ => True)
      (settings.enforcement.withdraw handle.text) (history ++ deleting) :=
    .of_makes (Enforcement.withdraw_makes settings.enforcement handle.text)
      fun _ _ => Call.Withdraws.confined
  apply hwithdraw.result.bind
  intro withdrawn withdrawing _
  exact .ofExcept fun _ _ => trivial

theorem up_confined (settings : Settings) (handle : Handle) (request : Request) :
    Heeds (Confined handle.text) (fun _ _ => True) (up settings handle request) [] := by
  rw [up_eq]
  split
  · exact .throw _
  · apply (EndpointLifecycle.create_confined settings handle.text []).bind
    intro attached creating hreturned
    refine .orUndo ?_ fun installing => down_confined settings handle _
    exact .of_makes (install_makes settings handle.text request attached)
      fun _ _ hinstalls => hinstalls.confined hreturned.append

end ContainerLifecycle

/-! ## The ports of other handles -/

namespace ServesPool

variable {σ α : Type} {place : FilePlace} {range : ManagedRange} {other : String}
variable {respond : (call : Call) → σ → call.Answer × σ} {files : σ → FileTree} {sound : σ → Prop}
variable {state : σ}

/-- A call for one handle moves no port of another. -/
theorem reservedFor?_respond (hserves : ServesPool place range respond files sound)
    {history : List Event} {call : Call} (hconfined : Confined handle history call)
    (hsound : sound state) (hother : other ≠ handle) (port : UInt16) :
    PortPool.reservedFor? place (files (respond call state).2) port = some other ↔
      PortPool.reservedFor? place (files state) port = some other := by
  have hspared (hspares : call.SparesPool) := hserves.spared call state hspares hsound
  cases call with
  | allocatePort holder requested =>
      obtain rfl : holder = handle := hconfined
      exact (hserves.allocatePort holder requested state hsound).allocate_reservedFor? hother port
  | releaseAllPorts holder =>
      obtain rfl : holder = handle := hconfined
      exact (hserves.releaseAllPorts holder state hsound).releaseAll_reservedFor? hother port
  | createNetwork network | deleteNetwork network => exact hconfined.elim
  | _ => rw [(hspared trivial).reservedFor?]

/-- An operation for one handle moves no port of another. -/
theorem reservedFor?_runOn (hserves : ServesPool place range respond files sound)
    {ends : α → List Event → Prop} {operation : Operation α} {history : List Event}
    (hconfined : Heeds (Confined handle) ends operation history) (hsound : sound state)
    (hother : other ≠ handle) (port : UInt16) :
    PortPool.reservedFor? place (files (runOn respond operation state).2) port = some other ↔
      PortPool.reservedFor? place (files state) port = some other := by
  have hmakes : Makes (fun call => ∃ history, Confined handle history call) operation :=
    hconfined.makes fun history _ hcall => ⟨history, hcall⟩
  refine (hmakes.keeps (fun after => sound after ∧
    (PortPool.reservedFor? place (files after) port = some other ↔
      PortPool.reservedFor? place (files state) port = some other)) ?_ ⟨hsound, Iff.rfl⟩).2
  rintro call after ⟨history, hcall⟩ ⟨hafter, hports⟩
  exact ⟨hserves.sound_respond call after hafter,
    (hserves.reservedFor?_respond hcall hafter hother port).trans hports⟩

end ServesPool

/-! ## Isolation -/

/-- An operation for one handle.  Whatever the host answers, its calls are confined to the handle,
and if the host keeps its ports in a pool file, those of other handles stay as they are. -/
structure Isolated {α : Type} (handle : String) (operation : Operation α) : Prop where
  confined : ∀ {σ : Type} (respond : (call : Call) → σ → call.Answer × σ) (state : σ)
    (earlier later : List Event) (event : Event),
    events respond operation state = earlier ++ event :: later → Confined handle earlier event.call
  ports : ∀ {σ : Type} {place : FilePlace} {range : ManagedRange}
    {respond : (call : Call) → σ → call.Answer × σ} {files : σ → FileTree} {sound : σ → Prop}
    {state : σ}, ServesPool place range respond files sound → sound state →
    ∀ other, other ≠ handle → ∀ port,
      PortPool.reservedFor? place (files (runOn respond operation state).2) port = some other ↔
        PortPool.reservedFor? place (files state) port = some other

theorem Operation.Heeds.isolated {α : Type} {ends : α → List Event → Prop} {operation : Operation α}
    (hconfined : Heeds (Confined handle) ends operation []) : Isolated handle operation where
  confined _ _ _ _ _ hevents := hconfined.allowed_of_events hevents
  ports hserves hsound _ hother port :=
    hserves.reservedFor?_runOn hconfined hsound hother port

namespace ContainerLifecycle

/-- Bringing a container up and taking it down is confined to its handle, also where they fail and
take back what they did. -/
theorem containers_isolated (settings : Settings) (handle : Handle) (request : Request) :
    Isolated handle.text (up settings handle request) ∧
      Isolated handle.text (down settings handle) :=
  ⟨(up_confined settings handle request).isolated, (down_confined settings handle []).isolated⟩

/-- A second container comes and goes next to one that holds a port. -/
theorem containers_isolated_of_two :
    let respond := SimulatedHost.respond ⟨61000, 10⟩
    let settings : Settings := { enforcement := .policyEngine }
    let request : Request := { inbound := [⟨0, 8080⟩] }
    let first : Handle := ⟨"first", by decide⟩
    let second : Handle := ⟨"second", by decide⟩
    let before := (runOn respond (up settings first request) .ready).2
    let between := (runOn respond (up settings second request) before).2
    let after := (runOn respond (down settings second) between).2
    PortPool.reservedFor? SimulatedHost.poolPlace between.files 61000 = some "first" ∧
      PortPool.reservedFor? SimulatedHost.poolPlace after.files 61000 = some "first" := by
  intro respond settings request first second before between after
  have hfaithful := SimulatedHost.faithful ⟨61000, 10⟩
  have hbefore : SimulatedHost.Sound before :=
    hfaithful.sound_runOn (up settings first request) SimulatedHost.ready_sound
  have hheld : PortPool.reservedFor? SimulatedHost.poolPlace before.files 61000 = some "first" := by
    decide +kernel
  clear_value before
  have hbetween : SimulatedHost.Sound between :=
    hfaithful.sound_runOn (up settings second request) hbefore
  obtain ⟨hup, hdown⟩ := containers_isolated settings second request
  have hkept := (hup.ports hfaithful.servesPool hbefore "first" (by decide) 61000).mpr hheld
  exact ⟨hkept, (hdown.ports hfaithful.servesPool hbetween "first" (by decide) 61000).mpr hkept⟩

end ContainerLifecycle

end ContainerNetwork
