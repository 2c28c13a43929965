import ContainerNetwork.Proofs.Lifecycle.Calls
import ContainerNetwork.Proofs.Lifecycle.Residue

/-!
# The way up

Which calls a container makes once its endpoint is created, and what the store then has more.
-/

namespace ContainerNetwork

open Operation

variable {enforcement : Enforcement} {settings : Settings} {handle id : String}

/-- The name of a rule that the host makes by itself has a blank, which no handle has. -/
theorem Allocator.generatedRule_not_isValid (allocator : Allocator) :
    ¬Handle.IsValid allocator.generatedRule := by
  rintro ⟨_, _, hall⟩
  have hblank : ' ' ∈ allocator.generatedRule.toList := by
    simp [generatedRule]
  exact absurd (List.all_eq_true.mp hall ' ' hblank) (by decide)

/-! ## Calls -/

namespace Call

theorem Attaches.joins {container : String} {call : Call} (hattaches : call.Attaches container id) :
    call.Joins id := by
  cases call with
  | attachEndpoint other endpointId => exact hattaches.2
  | deleteRule name =>
      obtain ⟨allocator, rfl⟩ := hattaches
      exact allocator.generatedRule_not_isValid
  | adapterExists _ | endpointById _ | ruleExists _ | sleep _ => trivial
  | _ => exact hattaches.elim

/-- Putting the rules of a container in force makes only calls of the way up. -/
theorem Installs.builds {endpoint : Endpoint} {call : Call} (hid : endpoint.id = id)
    (hname : endpoint.name = handle) (hinstalls : call.Installs enforcement handle endpoint) :
    call.Builds enforcement handle id := by
  rcases hinstalls with hforwards | hpermits | hcommits | hadapts
  · cases call with
    | allocatePort holder port => exact hforwards
    | exec other command timeout => trivial
    | createRule rule => exact ⟨hforwards.1, hforwards.2.1⟩
    | _ => exact hforwards.elim
  · cases call with
    | createRule rule => exact ⟨hpermits.1, hpermits.2.1⟩
    | _ => exact hpermits.elim
  · cases call with
    | updateEndpoint asked =>
        obtain ⟨_, rfl⟩ := hcommits
        exact ⟨hid, hname⟩
    | _ => exact hcommits.elim
  · cases call with
    | adapterMtu adapter | setAdapterMtu adapter mtu => trivial
    | _ => exact hadapts.elim

end Call

/-! ## The store on the way up -/

section Faithful

variable {σ : Type} {place : FilePlace} {range : ManagedRange}
variable {respond : (call : Call) → σ → call.Answer × σ} {store : σ → Store} {sound : σ → Prop}
variable {state : σ} {before : Store}

theorem Faithful.sound_runOn (hfaithful : Faithful place range respond store sound) {α : Type}
    (operation : Operation α) (hsound : sound state) : sound (runOn respond operation state).2 :=
  (Makes.any operation).keeps sound (fun call state _ => hfaithful.sound_respond call state) hsound

/-- The calls of the way up keep what the container added within its bounds. -/
theorem Faithful.residue_runOn (hfaithful : Faithful place range respond store sound)
    (hvalid : Handle.IsValid handle) {α : Type} {operation : Operation α}
    (hmakes : Makes (Call.Builds enforcement handle id) operation) (hsound : sound state)
    (hresidue : Store.Residue place enforcement handle id before (store state)) :
    sound (runOn respond operation state).2 ∧
      Store.Residue place enforcement handle id before
        (store (runOn respond operation state).2) := by
  refine hmakes.keeps
    (fun state => sound state ∧ Store.Residue place enforcement handle id before (store state))
    (fun call state hbuilds hstate => ?_) ⟨hsound, hresidue⟩
  exact ⟨hfaithful.sound_respond call state hstate.1,
    hstate.2.respond hvalid hbuilds (hfaithful.admits call state hstate.1)⟩

/-- Attaching leaves the rules named after handles and the pool alone. -/
theorem Faithful.joins_runOn (hfaithful : Faithful place range respond store sound) {α : Type}
    {operation : Operation α} (hmakes : Makes (Call.Joins id) operation) (hsound : sound state) :
    (store (runOn respond operation state).2).handleRules = (store state).handleRules ∧
      PortPool.SameFile place (store (runOn respond operation state).2).files
        (store state).files := by
  refine (hmakes.keeps (fun other => sound other ∧
    (store other).handleRules = (store state).handleRules ∧
      PortPool.SameFile place (store other).files (store state).files)
    (fun call other hjoins hother => ?_) ⟨hsound, rfl, fun _ _ => rfl⟩).2
  obtain ⟨hsound, hrules, hfiles⟩ := hother
  have htouches := (hfaithful.admits call other hsound).joins hjoins
  refine ⟨hfaithful.sound_respond call other hsound, htouches.handleRules.trans hrules, ?_⟩
  intro path hplace
  exact (htouches.files path hplace).trans (hfiles path hplace)

namespace EndpointLifecycle

/-- However often creating an endpoint is tried, it ends as one try does. -/
theorem createRetrying_runOn (hfaithful : Faithful place range respond store sound)
    (hsound : sound state) (asked : Endpoint) (retries : Nat) :
    ∃ answer : Except HostFault Endpoint,
      (runOn respond (createRetrying asked retries) state).1 = answer.mapError Failure.host ∧
        sound (runOn respond (createRetrying asked retries) state).2 ∧
        (store state).Admits place range (.createEndpoint asked) answer
          (store (runOn respond (createRetrying asked retries) state).2) := by
  have hafter := hfaithful.sound_respond (.createEndpoint asked) state hsound
  have hadmits := hfaithful.admits (.createEndpoint asked) state hsound
  induction retries generalizing state with
  | zero =>
      rw [createRetrying, runOn_host]
      exact ⟨_, rfl, hafter, hadmits⟩
  | succ retries ih =>
      rw [createRetrying, runOn_bind, runOn_result, runOn_host]
      simp only [Plan.call, Program.run]
      generalize respond (.createEndpoint asked) state = responded at hafter hadmits ⊢
      obtain ⟨answer, after⟩ := responded
      cases answer with
      | ok created => exact ⟨.ok created, rfl, hafter, hadmits⟩
      | error fault =>
          cases fault with
          | unspecified =>
              obtain ⟨answer, hresult, hlast, hretried⟩ := ih hafter
                (hfaithful.sound_respond _ _ hafter) (hfaithful.admits _ _ hafter)
              refine ⟨answer, hresult, hlast, ?_⟩
              cases answer with
              | error fault => exact Store.Agrees.trans hretried hadmits
              | ok created =>
                  obtain ⟨hname, hfresh, hagrees⟩ := hretried
                  have hsame : Store.Agrees place (store after) (store state) := hadmits
                  exact ⟨hname, hsame.endpoints ▸ hfresh, hagrees.trans (hsame.addEndpoint created)⟩
          | endpointNotFound key => exact ⟨.error _, rfl, hafter, hadmits⟩
          | networkNotFound name => exact ⟨.error _, rfl, hafter, hadmits⟩
          | computeSystemDoesNotExist => exact ⟨.error _, rfl, hafter, hadmits⟩
          | other text => exact ⟨.error _, rfl, hafter, hadmits⟩

/-- The endpoint that attaching returns is the container's. -/
theorem attach_eq_ok (hfaithful : Faithful place range respond store sound)
    (hvalid : Handle.IsValid handle) (hsound : sound state) {created attached : Endpoint}
    (hresidue : Store.Residue place enforcement handle created.id before (store state))
    (hattach : (runOn respond (attach settings handle created) state).1 = .ok attached) :
    attached.id = created.id ∧ attached.name = handle := by
  have hattaches : Makes (Call.Builds enforcement handle created.id)
      (host (.call (.attachEndpoint handle created.id)) : Operation Unit) :=
    .host (Plan.makes_call rfl)
  have hawaits : Makes (Call.Builds enforcement handle created.id)
      (awaitAdapter (adapterOf handle) adapterProbes) :=
    awaitAdapter_makes trivial (fun _ => trivial) _
  obtain ⟨_, _, hrest⟩ := runOn_bind_eq_ok hattach
  rw [attach, hrest] at hattach
  obtain ⟨hsound, hresidue⟩ := hfaithful.residue_runOn hvalid hattaches hsound hresidue
  obtain ⟨_, _, hrest⟩ := runOn_bind_eq_ok hattach
  rw [hrest] at hattach
  obtain ⟨hsound, hresidue⟩ := hfaithful.residue_runOn hvalid hawaits hsound hresidue
  obtain ⟨endpoint, hlookup, hrest⟩ := runOn_bind_eq_ok hattach
  rw [hrest] at hattach
  rw [runOn_host] at hlookup
  have hadmits := hfaithful.admits (.endpointById created.id) _ hsound
  rw [show (respond (.endpointById created.id) _).1 = .ok endpoint from mapError_eq_ok hlookup]
    at hadmits
  obtain ⟨hmem, hid, _⟩ := hadmits
  obtain rfl : endpoint = attached := by
    dsimp only at hattach
    split at hattach
    · obtain ⟨_, _, hrest⟩ := runOn_bind_eq_ok hattach
      rw [hrest] at hattach
      exact Except.ok.inj hattach
    · exact Except.ok.inj hattach
  exact ⟨hid, (hresidue.eq_of_id hmem hid).1⟩

end EndpointLifecycle

end Faithful

end ContainerNetwork
