import ContainerNetwork.Proofs.Host.Store

/-!
# Hosts that serve a port pool

A host may answer the calls for ports by the pool file alone, whatever it does about all other
calls.  Every faithful host does so, and ports given to one handle are not those of another.
-/

namespace ContainerNetwork

namespace PortPool

/-- What may become of the pool file by an answer that an action on it gives.  Others may have
changed other files before, and the use of the pool may fail for any reason. -/
def Uses {α : Type} (place : FilePlace) (action : FileAction Failure α) (before : FileTree)
    (answer : Except Failure α) (after : FileTree) : Prop :=
  ((∃ failure, answer = .error failure) ∧ SameFile place after before) ∨
    ∃ tree changed, SameFile place tree before ∧ action.runOn tree = (answer, changed) ∧
      SameFile place after changed

variable {place : FilePlace} {range : ManagedRange} {handle other : String}
variable {before after : FileTree}

/-- Ports given to a handle are not those of another. -/
theorem Uses.allocate_reservedFor? {requested : UInt16} {answer : Except Failure UInt16}
    (huses : Uses place (allocate place range handle requested) before answer after)
    (hother : other ≠ handle) (port : UInt16) :
    reservedFor? place after port = some other ↔ reservedFor? place before port = some other := by
  rcases huses with ⟨_, hsame⟩ | ⟨tree, changed, htree, hrun, hafter⟩
  · rw [hsame.reservedFor?]
  · rw [hafter.reservedFor?, ← htree.reservedFor?]
    by_cases hrequested : requested = 0
    · subst hrequested
      rcases allocate_zero_reservedFor? hrun with ⟨granted, _, _, hfree, hports⟩ | ⟨_, hsame⟩
      · rw [hports]
        split
        · rename_i hgranted
          rw [hgranted, hfree]
          simp [hother.symm]
        · rfl
      · rw [hsame]
    · rw [allocate_explicit_runOn hrequested] at hrun
      cases hrun
      rfl

/-- Ports released for a handle are not those of another. -/
theorem Uses.releaseAll_reservedFor? {answer : Except Failure Unit}
    (huses : Uses place (releaseAll place handle) before answer after)
    (hother : other ≠ handle) (port : UInt16) :
    reservedFor? place after port = some other ↔ reservedFor? place before port = some other := by
  rcases huses with ⟨_, hsame⟩ | ⟨tree, changed, htree, hrun, hafter⟩
  · rw [hsame.reservedFor?]
  · rw [hafter.reservedFor?, ← htree.reservedFor?]
    rcases PortPool.releaseAll_reservedFor? hrun with ⟨_, hports⟩ | ⟨_, hsame⟩
    · rw [hports, Option.filter_eq_some_iff]
      simp [hother]
    · rw [hsame]

end PortPool

/-- The calls that have nothing to do with the pool and are made for containers. -/
def Call.SparesPool : Call → Prop
  | allocatePort _ _ | releaseAllPorts _ | createNetwork _ | deleteNetwork _ => False
  | _ => True

/-- A host that answers the calls for ports by the pool file, or fails them, from every sound state
on. -/
structure ServesPool {σ : Type} (place : FilePlace) (range : ManagedRange)
    (respond : (call : Call) → σ → call.Answer × σ) (files : σ → FileTree) (sound : σ → Prop) :
    Prop where
  sound_respond : ∀ call state, sound state → sound (respond call state).2
  allocatePort : ∀ handle port state, sound state →
    PortPool.Uses place (PortPool.allocate place range handle port) (files state)
      (respond (.allocatePort handle port) state).1
      (files (respond (.allocatePort handle port) state).2)
  releaseAllPorts : ∀ handle state, sound state →
    PortPool.Uses place (PortPool.releaseAll place handle) (files state)
      (respond (.releaseAllPorts handle) state).1
      (files (respond (.releaseAllPorts handle) state).2)
  spared : ∀ call state, call.SparesPool → sound state →
    PortPool.SameFile place (files (respond call state).2) (files state)

section Faithful

variable {σ : Type} {place : FilePlace} {range : ManagedRange}
variable {respond : (call : Call) → σ → call.Answer × σ} {sound : σ → Prop}

theorem Store.Admits.sparesPool {before after : Store} {call : Call} {answer : call.Answer}
    (hadmits : before.Admits place range call answer after) (hspares : call.SparesPool) :
    PortPool.SameFile place after.files before.files := by
  cases call with
  | createEndpoint asked =>
      cases answer with
      | error fault => exact Agrees.files hadmits
      | ok created => exact hadmits.2.2.files
  | updateEndpoint asked =>
      cases answer with
      | error fault => exact Agrees.files hadmits
      | ok updated =>
          obtain ⟨_, _, _, _, _, hagrees⟩ := hadmits
          exact hagrees.files
  | attachEndpoint container id | detachEndpoint container id =>
      cases answer with
      | error fault => exact Agrees.files hadmits
      | ok value =>
          rcases hadmits with hagrees | ⟨_, _, _, _, _, _, hagrees⟩
          · exact hagrees.files
          · exact hagrees.files
  | endpointById key | endpointByName key =>
      cases answer with
      | error fault => exact Agrees.files hadmits
      | ok endpoint => exact hadmits.2.2.files
  | deleteEndpoint _ | createRule _ | deleteRule _ =>
      cases answer with
      | error fault => exact Agrees.files hadmits
      | ok value =>
          have hagrees : Agrees place after _ := hadmits
          exact hagrees.files
  | allocatePort _ _ | releaseAllPorts _ | createNetwork _ | deleteNetwork _ =>
      exact hspares.elim
  | _ => exact Agrees.files hadmits

/-- A faithful host serves its pool. -/
theorem Faithful.servesPool {store : σ → Store}
    (hfaithful : Faithful place range respond store sound) :
    ServesPool place range respond (fun state => (store state).files) sound where
  sound_respond := hfaithful.sound_respond
  allocatePort handle port state hsound :=
    (hfaithful.admits (.allocatePort handle port) state hsound).files
  releaseAllPorts handle state hsound :=
    (hfaithful.admits (.releaseAllPorts handle) state hsound).files
  spared call state hspares hsound := (hfaithful.admits call state hsound).sparesPool hspares

end Faithful

end ContainerNetwork
