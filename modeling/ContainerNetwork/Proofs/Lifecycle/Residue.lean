import ContainerNetwork.Proofs.Host.Store
import ContainerNetwork.Settings

/-!
# What a container adds to a host

Bringing up a container adds to the store one endpoint of its name, firewall rules of its name and
ports in the pool, and leaves all else as it was.  Every call of the way up and every detachment
keep this; deleting the endpoint, the rules and the ports takes it back.
-/

namespace ContainerNetwork

namespace Store

variable {place : FilePlace} {range : ManagedRange} {first second third : Store}

namespace Agrees

theorem refl (store : Store) : Agrees place store store := ⟨rfl, rfl, fun _ _ => rfl⟩

theorem trans (hfirst : Agrees place first second) (hsecond : Agrees place second third) :
    Agrees place first third where
  endpoints := hfirst.endpoints.trans hsecond.endpoints
  handleRules := hfirst.handleRules.trans hsecond.handleRules
  files path hplace := (hfirst.files path hplace).trans (hsecond.files path hplace)

theorem addEndpoint (hagrees : Agrees place first second) (endpoint : Endpoint) :
    Agrees place { first with endpoints := endpoint ::ₘ first.endpoints }
      { second with endpoints := endpoint ::ₘ second.endpoints } where
  endpoints := congrArg (Multiset.cons endpoint) hagrees.endpoints
  handleRules := hagrees.handleRules
  files := hagrees.files

end Agrees

/-- A store that keeps nothing for a handle. -/
structure Free (place : FilePlace) (handle : String) (store : Store) : Prop where
  endpoints : ∀ endpoint ∈ store.endpoints, endpoint.name ≠ handle
  rules : ∀ rule ∈ store.handleRules, rule.name ≠ handle
  ports : ∀ port, PortPool.reservedFor? place store.files port ≠ some handle

/-- The rules named after handles are those from before and others of one name, which are none
unless the host firewall enforces them. -/
def AddsRules (enforcement : Enforcement) (handle : String) (before now : Store) : Prop :=
  ∃ added : Multiset FirewallRule, (∀ rule ∈ added, rule.name = handle) ∧
    (enforcement = .policyEngine → added = 0) ∧ now.handleRules = added + before.handleRules

/-- The pool that stands now has the ports of the pool that stood before, and others that one
handle holds. -/
def ReservesFor (place : FilePlace) (handle : String) (before now : FileTree) : Prop :=
  ∀ pool, PortPool.standing? place now = some pool →
    ∃ held, PortPool.standing? place before = some held ∧
      ∀ port, pool.holder? port = held.holder? port ∨
        (held.holder? port = none ∧ pool.holder? port = some handle)

/-- What the rules of a container may have added to a store. -/
structure Extras (place : FilePlace) (enforcement : Enforcement) (handle : String)
    (before now : Store) : Prop where
  rules : AddsRules enforcement handle before now
  ports : ReservesFor place handle before.files now.files

/-- What a container may have added to a store: its extras, and an endpoint with an identifier of
its own. -/
structure Residue (place : FilePlace) (enforcement : Enforcement) (handle id : String)
    (before now : Store) : Prop extends Extras place enforcement handle before now where
  fresh : ∀ endpoint ∈ before.endpoints, endpoint.id ≠ id
  endpoint : ∃ endpoint, endpoint.id = id ∧ endpoint.name = handle ∧
    now.endpoints = endpoint ::ₘ before.endpoints

/-- Stores with the same endpoints, the same rules named after handles and the same pool. -/
structure Restored (place : FilePlace) (before after : Store) : Prop where
  endpoints : after.endpoints = before.endpoints
  handleRules : after.handleRules = before.handleRules
  pool : PortPool.standing? place after.files = PortPool.standing? place before.files

end Store

namespace Call

/-- The calls that only look, and those that attach or detach an endpoint. -/
def Joins (id : String) : Call → Prop
  | attachEndpoint _ endpointId | detachEndpoint _ endpointId => endpointId = id
  | deleteRule name => ¬Handle.IsValid name
  | createNetwork _ | deleteNetwork _ | createEndpoint _ | updateEndpoint _ | deleteEndpoint _
  | createRule _ | allocatePort _ _ | releaseAllPorts _ => False
  | _ => True

/-- The calls that a container makes on its way up, once its endpoint is created. -/
def Builds (enforcement : Enforcement) (handle id : String) : Call → Prop
  | updateEndpoint endpoint => endpoint.id = id ∧ endpoint.name = handle
  | createRule rule => enforcement = .firewall ∧ rule.name = handle
  | allocatePort holder _ => holder = handle
  | call => call.Joins id

theorem Joins.builds {enforcement : Enforcement} {handle id : String} {call : Call}
    (hjoins : call.Joins id) : call.Builds enforcement handle id := by
  cases call with
  | updateEndpoint endpoint => exact hjoins.elim
  | createRule rule => exact hjoins.elim
  | allocatePort holder port => exact hjoins.elim
  | _ => exact hjoins

end Call

namespace Store

variable {place : FilePlace} {range : ManagedRange} {enforcement : Enforcement}
variable {handle id : String} {before now after : Store}

theorem Agrees.restored (hagrees : Agrees place after before) : Restored place before after where
  endpoints := hagrees.endpoints
  handleRules := hagrees.handleRules
  pool := hagrees.files.standing?

theorem Extras.congr (hextras : Extras place enforcement handle before now)
    (hrules : after.handleRules = now.handleRules)
    (hfiles : PortPool.SameFile place after.files now.files) :
    Extras place enforcement handle before after where
  rules := by
    rw [AddsRules, hrules]
    exact hextras.rules
  ports := by
    rw [ReservesFor, hfiles.standing?]
    exact hextras.ports

/-! ## The way up -/

namespace Residue

/-- An endpoint that is created for the handle is all that the container added. -/
theorem created {endpoint : Endpoint} (hname : endpoint.name = handle)
    (hfresh : ∀ stored ∈ before.endpoints, stored.id ≠ endpoint.id) :
    Residue place enforcement handle endpoint.id before
      { before with endpoints := endpoint ::ₘ before.endpoints } where
  rules := ⟨0, fun _ hmem => absurd hmem (Multiset.notMem_zero _), fun _ => rfl,
    (Multiset.zero_add _).symm⟩
  ports pool hpool := ⟨pool, hpool, fun _ => .inl rfl⟩
  fresh := hfresh
  endpoint := ⟨endpoint, rfl, hname, rfl⟩

/-- The container's endpoint is the only one of its identifier. -/
theorem eq_of_id (hresidue : Residue place enforcement handle id before now) {endpoint : Endpoint}
    (hmem : endpoint ∈ now.endpoints) (hid : endpoint.id = id) :
    endpoint.name = handle ∧ now.endpoints = endpoint ::ₘ before.endpoints := by
  obtain ⟨own, _, hname, hendpoints⟩ := hresidue.endpoint
  rw [hendpoints, Multiset.mem_cons] at hmem
  rcases hmem with rfl | hmem
  · exact ⟨hname, hendpoints⟩
  · exact absurd hid (hresidue.fresh endpoint hmem)

/-- The container's endpoint may be changed, as long as it keeps its identifier and its name. -/
theorem replace (hresidue : Residue place enforcement handle id before now) {old new : Endpoint}
    (hmem : old ∈ now.endpoints) (hold : old.id = id) (hid : new.id = id)
    (hname : new.name = handle) :
    Residue place enforcement handle id before (now.replace old new) where
  fresh := hresidue.fresh
  endpoint := by
    refine ⟨new, hid, hname, ?_⟩
    rw [Store.replace, (hresidue.eq_of_id hmem hold).2, Multiset.erase_cons_head]
  rules := hresidue.rules
  ports := hresidue.ports

/-- A firewall rule of the container's name may be added where rules are enforced by them. -/
theorem addRule (hresidue : Residue place .firewall handle id before now) {rule : FirewallRule}
    (hvalid : Handle.IsValid handle) (hname : rule.name = handle) :
    Residue place .firewall handle id before { now with rules := rule ::ₘ now.rules } where
  fresh := hresidue.fresh
  endpoint := hresidue.endpoint
  rules := by
    obtain ⟨added, hadded, _, hrules⟩ := hresidue.rules
    refine ⟨rule ::ₘ added, ?_, by simp, ?_⟩
    · intro other hother
      rcases Multiset.mem_cons.mp hother with rfl | hother
      · exact hname
      · exact hadded other hother
    · rw [handleRules] at hrules
      rw [handleRules, Multiset.filter_cons_of_pos _ (hname ▸ hvalid), hrules,
        Multiset.cons_add]
  ports := hresidue.ports

end Residue

/-- Deleting the rules of a name that is no handle deletes none that is named after a handle. -/
theorem handleRules_deleteOther (store : Store) {name : String} (hname : ¬Handle.IsValid name) :
    handleRules { store with rules := store.rules.filter fun rule => rule.name ≠ name } =
      store.handleRules := by
  rw [handleRules, handleRules, Multiset.filter_filter]
  apply Multiset.filter_congr
  intro rule _
  constructor
  · exact And.left
  · intro hvalid
    refine ⟨hvalid, ?_⟩
    rintro rfl
    exact hname hvalid

theorem ReservesFor.unmoved {first second third : FileTree}
    (hreserves : ReservesFor place handle first second)
    (hunmoved : PortPool.Unmoved place second third) : ReservesFor place handle first third := by
  intro pool hpool
  rcases hunmoved with hsame | ⟨_, hnone⟩
  · exact hreserves pool (hsame ▸ hpool)
  · rw [hnone] at hpool
    cases hpool

/-- Ports may be reserved for the container. -/
theorem Residue.allocate (hresidue : Residue place enforcement handle id before now) {port : UInt16}
    {answer : Except Failure UInt16}
    (huses : UsesPool place (PortPool.allocate place range handle port) now answer after) :
    Residue place enforcement handle id before after where
  fresh := hresidue.fresh
  endpoint := by
    rw [huses.endpoints]
    exact hresidue.endpoint
  rules := by
    rw [AddsRules, huses.handleRules]
    exact hresidue.rules
  ports := by
    rcases huses.files with ⟨_, hsame⟩ | ⟨tree, changed, htree, hrun, hafter⟩
    · exact hresidue.ports.unmoved (.inl hsame.standing?)
    · have hreserves : ReservesFor place handle before.files tree := by
        rw [ReservesFor, htree.standing?]
        exact hresidue.ports
      rw [ReservesFor, hafter.standing?]
      by_cases hport : port = 0
      · subst hport
        rcases PortPool.allocate_zero_runOn hrun with
          ⟨granted, pool, _, _, hgranted, htree, hchanged⟩ | ⟨_, hunmoved⟩
        · intro chosen hchosen
          obtain rfl : pool.reserve granted handle = chosen :=
            Option.some.inj (hchanged.symm.trans hchosen)
          obtain ⟨held, hheld, hports⟩ := hreserves pool htree
          refine ⟨held, hheld, fun other => ?_⟩
          rw [PortPool.holder?_reserve]
          split
          · rename_i hother
            subst hother
            rw [hgranted]
            rcases hports other with hsame | ⟨_, hother⟩
            · exact .inr ⟨by rw [← hsame, hgranted], rfl⟩
            · rw [hgranted] at hother
              cases hother
          · exact hports other
        · exact hreserves.unmoved hunmoved
      · rw [PortPool.allocate_explicit_runOn hport] at hrun
        cases hrun
        exact hreserves

/-- Stores with the same rules named after handles and the same pool file, whose endpoints are the
same but for the one of an identifier, which keeps its name. -/
structure Touches (place : FilePlace) (id : String) (now after : Store) : Prop where
  handleRules : after.handleRules = now.handleRules
  files : PortPool.SameFile place after.files now.files
  endpoints : after.endpoints = now.endpoints ∨
    ∃ old ∈ now.endpoints, old.id = id ∧ ∃ changed : Endpoint, changed.id = id ∧
      changed.name = old.name ∧ after.endpoints = changed ::ₘ now.endpoints.erase old

theorem Agrees.touches (hagrees : Agrees place after now) : Touches place id now after where
  handleRules := hagrees.handleRules
  files := hagrees.files
  endpoints := .inl hagrees.endpoints

/-- Joining a network touches the container's endpoint at most. -/
theorem Admits.joins {call : Call} {answer : call.Answer}
    (hadmits : Admits place range call now answer after) (hjoins : call.Joins id) :
    Touches place id now after := by
  have hchanged
      (hchanged : Agrees place after now ∨ ∃ old ∈ now.endpoints, old.id = id ∧
        ∃ changed : Endpoint, changed.id = old.id ∧ changed.name = old.name ∧
          Agrees place after (now.replace old changed)) : Touches place id now after := by
    rcases hchanged with hagrees | ⟨old, hmem, hold, changed, hid, hname, hagrees⟩
    · exact hagrees.touches
    · exact ⟨hagrees.handleRules, hagrees.files,
        .inr ⟨old, hmem, hold, changed, hid.trans hold, hname, hagrees.endpoints⟩⟩
  cases call with
  | attachEndpoint container endpointId | detachEndpoint container endpointId =>
      obtain rfl : endpointId = id := hjoins
      cases answer with
      | error fault => exact Agrees.touches hadmits
      | ok value => exact hchanged hadmits
  | deleteRule name =>
      cases answer with
      | error fault => exact Agrees.touches hadmits
      | ok value =>
          have hdeletes : Agrees place after _ := hadmits
          exact ⟨hdeletes.handleRules.trans (handleRules_deleteOther now hjoins), hdeletes.files,
            .inl hdeletes.endpoints⟩
  | endpointById key | endpointByName key =>
      cases answer with
      | error fault => exact Agrees.touches hadmits
      | ok endpoint => exact Agrees.touches hadmits.2.2
  | networkByName key | ruleExists key | adapterExists key | adapterMtu key | sleep key
  | setAdapterMtu key value | exec container key value => exact Agrees.touches hadmits
  | _ => exact hjoins.elim

theorem Residue.touched (hresidue : Residue place enforcement handle id before now)
    (htouches : Touches place id now after) :
    Residue place enforcement handle id before after where
  toExtras := hresidue.toExtras.congr htouches.handleRules htouches.files
  fresh := hresidue.fresh
  endpoint := by
    rcases htouches.endpoints with hsame | ⟨old, hmem, hold, changed, hid, hname, hchanged⟩
    · rw [hsame]
      exact hresidue.endpoint
    · have hreplaced := hresidue.replace hmem hold hid
        (hname.trans (hresidue.eq_of_id hmem hold).1)
      rw [hchanged]
      exact hreplaced.endpoint

theorem Residue.agrees (hresidue : Residue place enforcement handle id before now)
    (hagrees : Agrees place after now) : Residue place enforcement handle id before after :=
  hresidue.touched hagrees.touches

/-- Every call of the way up keeps what the container added within its bounds. -/
theorem Residue.respond (hresidue : Residue place enforcement handle id before now)
    (hvalid : Handle.IsValid handle) {call : Call} {answer : call.Answer}
    (hbuilds : call.Builds enforcement handle id)
    (hadmits : Admits place range call now answer after) :
    Residue place enforcement handle id before after := by
  cases call with
  | updateEndpoint asked =>
      cases answer with
      | error fault => exact hresidue.agrees hadmits
      | ok updated =>
          obtain ⟨hid, hname⟩ : asked.id = id ∧ asked.name = handle := hbuilds
          obtain ⟨hupdated, hupdatedName, old, hmem, hold, hagrees⟩ := hadmits
          exact (hresidue.replace hmem (hold.trans hid) (hupdated.trans hid)
            (hupdatedName.trans hname)).agrees hagrees
  | createRule rule =>
      obtain ⟨rfl, hname⟩ : enforcement = .firewall ∧ rule.name = handle := hbuilds
      cases answer with
      | error fault => exact hresidue.agrees hadmits
      | ok value => exact (hresidue.addRule hvalid hname).agrees hadmits
  | allocatePort holder port =>
      obtain rfl : holder = handle := hbuilds
      exact hresidue.allocate hadmits
  -- Every other call of the way up joins the network.
  | _ => exact hresidue.touched (Admits.joins hadmits hbuilds)

/-! ## The way back -/

/-- Deleting the container's endpoint takes back all but the extras. -/
theorem Residue.deleteEndpoint (hresidue : Residue place enforcement handle id before now) :
    (now.endpoints.filter fun endpoint => endpoint.id ≠ id) = before.endpoints := by
  obtain ⟨own, hid, _, hendpoints⟩ := hresidue.endpoint
  rw [hendpoints, Multiset.filter_cons_of_neg]
  · exact Multiset.filter_eq_self.mpr hresidue.fresh
  · exact not_not.mpr hid

/-- Deleting the rules of the container's name takes back those it added and no others. -/
theorem AddsRules.deleteRule (hrules : AddsRules enforcement handle before now)
    (hfree : Free place handle before) :
    handleRules { now with rules := now.rules.filter fun rule => rule.name ≠ handle } =
      before.handleRules := by
  obtain ⟨added, hadded, _, hrules⟩ := hrules
  have hdeleted : added.filter (fun rule => rule.name ≠ handle) = 0 := by
    apply Multiset.filter_eq_nil.mpr
    intro rule hrule
    exact not_not.mpr (hadded rule hrule)
  calc
    handleRules { now with rules := now.rules.filter fun rule => rule.name ≠ handle } =
        now.handleRules.filter fun rule => rule.name ≠ handle := by
      rw [handleRules, handleRules, Multiset.filter_filter, Multiset.filter_filter]
      exact Multiset.filter_congr fun _ _ => and_comm
    _ = (added + before.handleRules).filter fun rule => rule.name ≠ handle := by
      rw [hrules]
    _ = before.handleRules.filter fun rule => rule.name ≠ handle := by
      rw [Multiset.filter_add, hdeleted, Multiset.zero_add]
    _ = before.handleRules := Multiset.filter_eq_self.mpr hfree.rules

/-- Releasing the container's ports takes back those it reserved and no others. -/
theorem ReservesFor.release {first second : FileTree} {pool : PortPool}
    (hreserves : ReservesFor place handle first second)
    (hports : ∀ port, PortPool.reservedFor? place first port ≠ some handle)
    (hpool : PortPool.standing? place second = some pool) :
    PortPool.standing? place first = some (pool.release handle) := by
  obtain ⟨held, hheld, hholders⟩ := hreserves pool hpool
  have hreleased : pool.release handle = held := by
    apply PortPool.ext_holder?
    intro port
    have hnotOwn := hports port
    rw [PortPool.reservedFor?, hheld, Option.bind_some] at hnotOwn
    rw [PortPool.holder?_release]
    rcases hholders port with hsame | ⟨hnone, hown⟩
    · rw [hsame]
      cases hholder : held.holder? port with
      | none => rfl
      | some holder =>
          rw [Option.filter_some, if_pos]
          simpa using fun heq : holder = handle => hnotOwn (heq ▸ hholder)
    · rw [hown, hnone]
      simp
  rw [hreleased, hheld]

/-- A release that succeeds gives the pool that stood before. -/
theorem Extras.releaseAll (hextras : Extras place enforcement handle before now)
    (hfree : Free place handle before)
    (huses : UsesPool place (PortPool.releaseAll place handle) now (.ok ()) after) :
    PortPool.standing? place after.files = PortPool.standing? place before.files := by
  rcases huses.files with ⟨⟨_, hfailed⟩, _⟩ | ⟨tree, changed, htree, hrun, hafter⟩
  · cases hfailed
  · rcases PortPool.releaseAll_runOn hrun with ⟨pool, _, hpool, hchanged⟩ | ⟨⟨_, hfailed⟩, _⟩
    · rw [hafter.standing?, hchanged]
      rw [htree.standing?] at hpool
      exact (hextras.ports.release hfree.ports hpool).symm
    · cases hfailed

end Store

end ContainerNetwork
