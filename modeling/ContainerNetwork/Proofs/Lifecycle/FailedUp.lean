import ContainerNetwork.Proofs.Host.SimulatedStore
import ContainerNetwork.Proofs.Lifecycle.WayUp

/-!
# Bringing a container up and failing

A container that cannot be brought up leaves nothing on the host, as long as the calls that take
things back succeed.  Its failure is the one that the way up alone would have had.
-/

namespace ContainerNetwork

open Operation

namespace Event

/-- The answers with which what a handle has on the host is taken back.  How detaching ends does
not matter. -/
def TakesBack (handle : String) : Event → Prop
  | ⟨.endpointByName _, answer⟩ => Except.isOk answer
  | ⟨.deleteEndpoint _, answer⟩ | ⟨.releaseAllPorts _, answer⟩ => Except.isOk answer
  | ⟨.deleteRule name, answer⟩ => name = handle → Except.isOk answer
  | _ => True

instance (handle : String) : DecidablePred (TakesBack handle)
  | ⟨.endpointByName _, answer⟩ => inferInstanceAs (Decidable (Except.isOk answer = true))
  | ⟨.deleteEndpoint _, answer⟩ => inferInstanceAs (Decidable (Except.isOk answer = true))
  | ⟨.releaseAllPorts _, answer⟩ => inferInstanceAs (Decidable (Except.isOk answer = true))
  | ⟨.deleteRule name, answer⟩ =>
      inferInstanceAs (Decidable (name = handle → Except.isOk answer = true))
  | ⟨.networkByName _, _⟩ | ⟨.createNetwork _, _⟩ | ⟨.deleteNetwork _, _⟩
  | ⟨.createEndpoint _, _⟩ | ⟨.updateEndpoint _, _⟩ | ⟨.endpointById _, _⟩
  | ⟨.attachEndpoint _ _, _⟩ | ⟨.detachEndpoint _ _, _⟩ | ⟨.createRule _, _⟩
  | ⟨.ruleExists _, _⟩ | ⟨.exec _ _ _, _⟩ | ⟨.adapterExists _, _⟩ | ⟨.adapterMtu _, _⟩
  | ⟨.setAdapterMtu _ _, _⟩ | ⟨.allocatePort _ _, _⟩ | ⟨.sleep _, _⟩ => isTrue trivial

end Event

variable {σ : Type} {place : FilePlace} {range : ManagedRange}
variable {respond : (call : Call) → σ → call.Answer × σ} {store : σ → Store} {sound : σ → Prop}
variable {settings : Settings} {enforcement : Enforcement} {handle id : String} {state : σ}
variable {before : Store}

/-! ## The way back -/

namespace EndpointLifecycle

end EndpointLifecycle

/-- Rules are deleted whether the ports could be released or not. -/
theorem Firewall.withdraw_runOn (respond : (call : Call) → σ → call.Answer × σ) (handle : String)
    (state : σ) :
    let release := respond (.releaseAllPorts handle) state
    let deletion := respond (.deleteRule handle) release.2
    (runOn respond (withdraw handle) state).2 = deletion.2 ∧
      events respond (withdraw handle) state =
        [⟨.releaseAllPorts handle, release.1⟩, ⟨.deleteRule handle, deletion.1⟩] := by
  simp only [withdraw, events_bind, runOn_bind, events_result, events_host, events_pool,
    runOn_result, runOn_host, runOn_pool, Plan.call, Program.run, Plan.log]
  exact ⟨rfl, rfl⟩

namespace ContainerLifecycle

end ContainerLifecycle

/-! ## The whole of it -/

/-- Creates the endpoint of a container and attaches it, without undoing anything. -/
def EndpointLifecycle.join (settings : Settings) (container : String) : Operation Endpoint := do
  let network ← host (.call (.networkByName settings.networkName))
  let created ← createRetrying (descriptor settings container network.id) (createAttempts - 1)
  attach settings container created

namespace EndpointLifecycle

/-- Attaches an endpoint that was created, or deletes it again. -/
def attachOrDelete (settings : Settings) (container : String) (created : Endpoint) :
    Operation Endpoint :=
  orUndo (attach settings container created) (host (.call (.deleteEndpoint created)))

theorem create_eq (settings : Settings) (container : String) :
    create settings container = (do
      let network ← host (.call (.networkByName settings.networkName))
      let created ← createRetrying (descriptor settings container network.id) (createAttempts - 1)
      attachOrDelete settings container created) := by
  unfold create attachOrDelete orUndo
  refine bind_congr fun network => bind_congr fun created => bind_congr fun result => ?_
  cases result with
  | ok attached => rfl
  | error failure => rfl

/-- Creating an endpoint does what joining does, unless that fails: then it fails alike. -/
theorem create_runOn (respond : (call : Call) → σ → call.Answer × σ) (settings : Settings)
    (container : String) (state : σ) :
    runOn respond (create settings container) state =
        runOn respond (join settings container) state ∨
      ∃ failure, (runOn respond (create settings container) state).1 = .error failure ∧
        (runOn respond (join settings container) state).1 = .error failure := by
  rw [create_eq, join, runOn_bind, runOn_bind]
  rcases runOn respond (host (.call (.networkByName settings.networkName)) : Operation Network)
    state with ⟨failure | network, looked⟩
  · exact .inl rfl
  · simp only [runOn_bind]
    rcases runOn respond (createRetrying _ _) looked with ⟨failure | created, after⟩
    · exact .inl rfl
    · simp only [attachOrDelete, runOn_orUndo]
      rcases runOn respond (attach settings container created) after with ⟨failure | attached, last⟩
      · exact .inr ⟨failure, rfl, rfl⟩
      · exact .inl rfl

/-- What creating an endpoint leaves: the container's own endpoint, or nothing. -/
def Settles (place : FilePlace) (enforcement : Enforcement) (handle : String)
    (before after : Store) : Except Failure Endpoint → Prop
  | .ok endpoint =>
      endpoint.name = handle ∧ before.Residue place enforcement handle endpoint.id after
  | .error _ => before.Restored place after

theorem attachOrDelete_settles (hfaithful : Faithful place range respond store sound)
    (hvalid : Handle.IsValid handle) (hsound : sound state) {created : Endpoint}
    (hname : created.name = handle)
    (hfresh : ∀ endpoint ∈ before.endpoints, endpoint.id ≠ created.id)
    (hcreated : Store.Agrees place (store state)
      { before with endpoints := created ::ₘ before.endpoints })
    (hevents : ∀ event ∈ events respond (attachOrDelete settings handle created) state,
      event.TakesBack handle) :
    let run := runOn respond (attachOrDelete settings handle created) state
    sound run.2 ∧ Settles place settings.enforcement handle before (store run.2) run.1 := by
  rw [attachOrDelete, events_orUndo] at hevents
  rw [attachOrDelete, runOn_orUndo]
  have hresidue : Store.Residue place settings.enforcement handle created.id before (store state) :=
    (Store.Residue.created hname hfresh).agrees hcreated
  have hattached : ∀ attached,
      (runOn respond (attach settings handle created) state).1 = .ok attached →
        attached.id = created.id ∧ attached.name = handle :=
    fun attached => attach_eq_ok hfaithful hvalid hsound hresidue
  have hmakes : Makes (Call.Joins created.id) (attach settings handle created) :=
    (attach_makes settings handle created).mono fun _ => Call.Attaches.joins
  obtain ⟨hrules, hfiles⟩ := hfaithful.joins_runOn hmakes hsound
  obtain ⟨hsound, hresidue⟩ :=
    hfaithful.residue_runOn hvalid (hmakes.mono fun _ => Call.Joins.builds) hsound hresidue
  generalize runOn respond (attach settings handle created) state = attaching at *
  obtain ⟨result, after⟩ := attaching
  cases result with
  | ok attached =>
      obtain ⟨hid, hname⟩ := hattached attached rfl
      exact ⟨hsound, hname, hid ▸ hresidue⟩
  | error failure =>
      have hdeletion : Except.isOk (respond (.deleteEndpoint created) after).1 := by
        apply hevents ⟨.deleteEndpoint created, _⟩
        apply List.mem_append_right
        simp only [events_host, Plan.call, Plan.log]
        exact List.mem_singleton.mpr rfl
      obtain ⟨_, hdeleted⟩ := isOk_iff.mp hdeletion
      have hadmits := hfaithful.admits (.deleteEndpoint created) after hsound
      rw [hdeleted] at hadmits
      have hdeletes : Store.Agrees place _ _ := hadmits
      simp only [runOn_host, Plan.call, Program.run]
      refine ⟨hfaithful.sound_respond _ _ hsound, ?_, ?_, ?_⟩
      · exact hdeletes.endpoints.trans hresidue.deleteEndpoint
      · calc
          _ = (store after).handleRules := hdeletes.handleRules
          _ = (store state).handleRules := hrules
          _ = before.handleRules := hcreated.handleRules
      · calc
          _ = PortPool.standing? place (store after).files := hdeletes.files.standing?
          _ = PortPool.standing? place (store state).files := hfiles.standing?
          _ = PortPool.standing? place before.files := hcreated.files.standing?

/-- A container gets an endpoint of its own, or nothing is left of it. -/
theorem create_settles (hfaithful : Faithful place range respond store sound)
    (hvalid : Handle.IsValid handle) (hsound : sound state)
    (hevents : ∀ event ∈ events respond (create settings handle) state, event.TakesBack handle) :
    let run := runOn respond (create settings handle) state
    sound run.2 ∧ Settles place settings.enforcement handle (store state) (store run.2) run.1 := by
  rw [create_eq] at hevents ⊢
  have hlooked := hfaithful.admits (.networkByName settings.networkName) state hsound
  have hsound := hfaithful.sound_respond (.networkByName settings.networkName) state hsound
  simp only [events_bind, runOn_bind, events_host, runOn_host, Plan.call, Program.run] at hevents ⊢
  generalize respond (.networkByName settings.networkName) state = looked at *
  obtain ⟨answer, looked⟩ := looked
  cases answer with
  | error fault => exact ⟨hsound, Store.Agrees.restored hlooked⟩
  | ok network =>
      simp only [mapError_ok] at hevents ⊢
      have hsame : Store.Agrees place (store looked) (store state) := hlooked
      obtain ⟨answer, hresult, hafter, hcreates⟩ := createRetrying_runOn hfaithful hsound
        (descriptor settings handle network.id) (createAttempts - 1)
      generalize runOn respond (createRetrying _ _) looked = creating at *
      obtain ⟨result, after⟩ := creating
      subst hresult
      cases answer with
      | error fault =>
          exact ⟨hafter, (Store.Agrees.trans hcreates hsame).restored⟩
      | ok created =>
          obtain ⟨hname, hfresh, hagrees⟩ := hcreates
          refine attachOrDelete_settles hfaithful hvalid hafter hname (hsame.endpoints ▸ hfresh)
            (hagrees.trans (hsame.addEndpoint created)) fun event hevent => hevents event ?_
          exact List.mem_append_right _ (List.mem_append_right _ hevent)

end EndpointLifecycle

namespace ContainerLifecycle

theorem up_eq (settings : Settings) (handle : Handle) (request : Request) :
    up settings handle request = (do
      if maxPortMappings < request.inbound.length then
        throw (.tooManyPortMappings request.inbound.length)
      let endpoint ← EndpointLifecycle.create settings handle.text
      orUndo (install settings handle.text request endpoint) (down settings handle)) := by
  unfold up orUndo
  split
  · rfl
  · refine bind_congr fun endpoint => bind_congr fun result => ?_
    cases result with
    | ok report => rfl
    | error failure => rfl

end ContainerLifecycle

end ContainerNetwork
