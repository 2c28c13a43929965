import ContainerNetwork.Proofs.Host.PoolService
import ContainerNetwork.Proofs.Host.SimulatedStore
import ContainerNetwork.Proofs.PortPool.Refinement

/-!
# Hosts that take things back

An obliging host is a faithful one on which the calls of taking a container down succeed and change
nothing but what they name.  The simulated host is obliging as long as no faults are scripted.
-/

namespace ContainerNetwork

/-- The calls by which a container is taken down. -/
def Call.TakesDown : Call → Prop
  | endpointByName _ | detachEndpoint _ _ | deleteEndpoint _ | releaseAllPorts _
  | deleteRule _ => True
  | _ => False

/-- The firewall rules that a call of taking a container down leaves. -/
def Call.rulesLeft (rules : Multiset FirewallRule) : Call → Multiset FirewallRule
  | deleteRule name => rules.filter fun rule => rule.name ≠ name
  | _ => rules

/-- A faithful host that finds every endpoint it keeps, and on which detaching, deleting and
releasing succeed.  A container may be gone when its endpoint is detached. -/
structure Obliging {σ : Type} (place : FilePlace) (range : ManagedRange)
    (respond : (call : Call) → σ → call.Answer × σ) (store : σ → Store) (sound : σ → Prop) :
    Prop extends Faithful place range respond store sound where
  endpointByName : ∀ name state, sound state →
    (∃ endpoint, (respond (.endpointByName name) state).1 = .ok endpoint) ∨
      (∃ key, (respond (.endpointByName name) state).1 = .error (.endpointNotFound key)) ∧
        ∀ endpoint ∈ (store state).endpoints, endpoint.name ≠ name
  detachEndpoint : ∀ container id state, sound state →
    (respond (.detachEndpoint container id) state).1 = .ok () ∨
      (respond (.detachEndpoint container id) state).1 = .error .computeSystemDoesNotExist
  deleteEndpoint : ∀ endpoint state, sound state →
    (respond (.deleteEndpoint endpoint) state).1 = .ok ()
  releaseAllPorts : ∀ handle state, sound state →
    (respond (.releaseAllPorts handle) state).1 = .ok ()
  deleteRule : ∀ name state, sound state → (respond (.deleteRule name) state).1 = .ok ()
  rules : ∀ call state, call.TakesDown → sound state →
    (store (respond call state).2).rules = call.rulesLeft (store state).rules

namespace SimulatedHost

variable {host : SimulatedHost} {range : ManagedRange}

/-- A sound host on which no faults are scripted and whose pool file can be used. -/
structure Tidy (host : SimulatedHost) : Prop where
  sound : Sound host
  faultless : host.faults = fun _ => []
  serves : ∃ pool, PortPool.Serves poolPlace host.files pool

theorem ready_tidy : Tidy ready where
  sound := ready_sound
  faultless := rfl
  serves := ⟨.empty, _, rfl, ⟨_, rfl, .absent⟩, _, rfl⟩

theorem answer_of_faultless {α : Type} (hfaultless : host.faults = fun _ => []) (call : Call)
    (act : SimulatedHost → Except HostFault α × SimulatedHost) :
    host.answer call act = act (host.record call) := by
  simp [answer, takeFault, record, hfaultless]

theorem answerPool_of_faultless {α : Type} (hfaultless : host.faults = fun _ => []) (call : Call)
    (action : FileAction Failure α) :
    host.answerPool call action =
      ((action.runOn host.files).1,
        { host.record call with files := (action.runOn host.files).2 }) := by
  simp [answerPool, takeFault, record, hfaultless]

/-- Without scripted faults a command ends with the next exit code, or by its timeout. -/
theorem runCommand_of_faultless (hfaultless : host.faults = fun _ => []) (timeout : Nat) :
    (host.runCommand timeout).2.faults = (fun _ => []) ∧
      (host.runCommand timeout).2.files = host.files := by
  simp only [runCommand, takeFault, hfaultless]
  split
  · exact ⟨rfl, rfl⟩
  · exact ⟨rfl, rfl⟩

/-- Calls that have nothing to do with the pool leave the files alone, and none scripts faults. -/
theorem respond_of_faultless (range : ManagedRange) (hfaultless : host.faults = fun _ => [])
    (call : Call) :
    (respond range call host).2.faults = (fun _ => []) ∧
      (call.SparesPool → (respond range call host).2.files = host.files) := by
  cases call with
  | exec container command timeout =>
      have hrecorded : (host.record (.exec container command timeout)).faults = fun _ => [] :=
        hfaultless
      obtain ⟨hfaults, hfiles⟩ := runCommand_of_faultless hrecorded timeout
      exact ⟨hfaults, fun _ => hfiles⟩
  | updateEndpoint asked =>
      rw [respond, answer_of_faultless hfaultless]
      split
      · exact ⟨hfaultless, fun _ => rfl⟩
      · exact ⟨hfaultless, fun _ => rfl⟩
  | sleep milliseconds => exact ⟨hfaultless, fun _ => rfl⟩
  | allocatePort handle port =>
      rw [respond, answerPool_of_faultless hfaultless]
      exact ⟨hfaultless, False.elim⟩
  | releaseAllPorts handle =>
      rw [respond, answerPool_of_faultless hfaultless]
      exact ⟨hfaultless, False.elim⟩
  | _ =>
      rw [respond, answer_of_faultless hfaultless]
      exact ⟨hfaultless, fun _ => rfl⟩

theorem Tidy.respond (htidy : Tidy host) (call : Call) :
    Tidy (SimulatedHost.respond range call host).2 := by
  obtain ⟨hfaults, hfiles⟩ := respond_of_faultless range htidy.faultless call
  obtain ⟨pool, hserves⟩ := htidy.serves
  refine ⟨(respond_responds htidy.sound call).1, hfaults, ?_⟩
  have hspared (hspares : call.SparesPool) := hfiles hspares ▸ hserves
  cases call with
  | allocatePort handle port =>
      rw [SimulatedHost.respond, answerPool_of_faultless htidy.faultless]
      exact hserves.allocate range handle port
  | releaseAllPorts handle =>
      rw [SimulatedHost.respond, answerPool_of_faultless htidy.faultless]
      exact ⟨_, (hserves.releaseAll handle).2⟩
  | createNetwork network | deleteNetwork network =>
      rw [SimulatedHost.respond, answer_of_faultless htidy.faultless]
      exact ⟨pool, hserves⟩
  | _ => exact ⟨pool, hspared trivial⟩

/-- The simulated host is obliging while no faults are scripted and its pool file can be used. -/
theorem obliging (range : ManagedRange) :
    Obliging poolPlace range (respond range) store Tidy where
  sound_respond call _ htidy := htidy.respond call
  admits call state htidy := (faithful range).admits call state htidy.sound
  endpointByName name host htidy := by
    rw [respond, answer_of_faultless htidy.faultless]
    cases hfind : host.endpoints.find? (·.name = name) with
    | none =>
        refine .inr ⟨⟨name, ?_⟩, fun endpoint hmem => ?_⟩
        · simp [record, hfind, orMissing]
        · simpa using List.find?_eq_none.mp hfind endpoint (Multiset.mem_coe.mp hmem)
    | some endpoint => exact .inl ⟨endpoint, by simp [record, hfind, orMissing]⟩
  detachEndpoint container id host htidy := by
    rw [respond, answer_of_faultless htidy.faultless]
    exact .inl rfl
  deleteEndpoint endpoint host htidy := by
    rw [respond, answer_of_faultless htidy.faultless]
  releaseAllPorts handle host htidy := by
    obtain ⟨pool, hserves⟩ := htidy.serves
    rw [respond, answerPool_of_faultless htidy.faultless]
    exact (hserves.releaseAll handle).1
  deleteRule name host htidy := by
    rw [respond, answer_of_faultless htidy.faultless]
  rules call host htakes htidy := by
    cases call with
    | endpointByName _ | detachEndpoint _ _ | deleteEndpoint _ =>
        rw [respond, answer_of_faultless htidy.faultless]
        rfl
    | releaseAllPorts handle =>
        rw [respond, answerPool_of_faultless htidy.faultless]
        rfl
    | deleteRule name =>
        rw [respond, answer_of_faultless htidy.faultless]
        exact (Multiset.filter_coe _ _).symm
    | _ => exact htakes.elim

end SimulatedHost

end ContainerNetwork
