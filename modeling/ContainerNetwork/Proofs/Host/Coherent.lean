import ContainerNetwork.Proofs.Host.Obliging

/-!
# Hosts on which the pool and the commands stand apart

What a call for ports answers depends on the pool file alone, and how a command in a container ends
depends on the commands before it.  No other call has an effect on either.
-/

namespace ContainerNetwork

/-- The calls for containers that have nothing to do with the pool or with commands. -/
def Call.Aside : Call → Prop
  | exec _ _ _ | allocatePort _ _ | releaseAllPorts _ | createNetwork _ | deleteNetwork _ => False
  | _ => True

/-- Hosts that serve their pool from its file and run commands in a shell.  No other call has an
effect on either. -/
structure Coherent {σ ς : Type} (place : FilePlace) (range : ManagedRange)
    (respond : (call : Call) → σ → call.Answer × σ) (files : σ → FileTree) (shell : σ → ς)
    (execute : (container command : String) → (timeout : Nat) → ς →
      Except HostFault CommandEnd × ς) (sound : σ → Prop) : Prop where
  sound_respond : ∀ call state, sound state → sound (respond call state).2
  allocatePort : ∀ handle port state, sound state →
    let responded := respond (.allocatePort handle port) state
    (PortPool.allocate place range handle port).runOn (files state) =
        (responded.1, files responded.2) ∧ shell responded.2 = shell state
  releaseAllPorts : ∀ handle state, sound state →
    let responded := respond (.releaseAllPorts handle) state
    (PortPool.releaseAll place handle).runOn (files state) =
        (responded.1, files responded.2) ∧ shell responded.2 = shell state
  exec : ∀ container command timeout state, sound state →
    let responded := respond (.exec container command timeout) state
    execute container command timeout (shell state) = (responded.1, shell responded.2) ∧
      files responded.2 = files state
  aside : ∀ call state, call.Aside → sound state →
    files (respond call state).2 = files state ∧ shell (respond call state).2 = shell state

namespace SimulatedHost

variable {host : SimulatedHost} {range : ManagedRange}

/-- The exit codes and the delays that are scripted for the next commands. -/
def script (host : SimulatedHost) : List Int × List Nat := (host.exitCodes, host.execDelays)

/-- Ends a command as it is scripted; one that takes too long leaves its exit code to the next. -/
def execute (_container _command : String) (timeout : Nat) :
    List Int × List Nat → Except HostFault CommandEnd × (List Int × List Nat)
  | (codes, delays) =>
      if timeout < delays.headD 0 then (.ok .timedOut, codes, delays.tail)
      else (.ok (.exited (codes.headD 0)), codes.tail, delays.tail)

/-- Without scripted faults, commands end by their script. -/
theorem runCommand_script (hfaultless : host.faults = fun _ => []) (container command : String)
    (timeout : Nat) :
    execute container command timeout host.script =
      ((host.runCommand timeout).1, (host.runCommand timeout).2.script) := by
  by_cases hlate : timeout < host.execDelays.headD 0
  · simp only [execute, script, runCommand, if_pos hlate]
    exact if_pos hlate
  · simp only [execute, script, runCommand, takeFault, hfaultless, if_neg hlate]
    exact if_neg hlate

theorem respond_script (hfaultless : host.faults = fun _ => []) {call : Call}
    (haside : call.Aside) : (respond range call host).2.script = host.script := by
  cases call with
  | exec _ _ _ | allocatePort _ _ | releaseAllPorts _ | createNetwork _ | deleteNetwork _ =>
      exact haside.elim
  | updateEndpoint asked =>
      rw [respond, answer_of_faultless hfaultless]
      split
      · rfl
      · rfl
  | sleep milliseconds => rfl
  | _ =>
      rw [respond, answer_of_faultless hfaultless]
      rfl

/-- The simulated host is coherent while no faults are scripted and its pool file can be used. -/
theorem coherent (range : ManagedRange) :
    Coherent poolPlace range (respond range) files script execute Tidy where
  sound_respond call _ htidy := htidy.respond call
  allocatePort handle port host htidy := by
    rw [respond, answerPool_of_faultless htidy.faultless]
    exact ⟨rfl, rfl⟩
  releaseAllPorts handle host htidy := by
    rw [respond, answerPool_of_faultless htidy.faultless]
    exact ⟨rfl, rfl⟩
  exec container command timeout host htidy := by
    have hrecorded : (host.record (.exec container command timeout)).faults = fun _ => [] :=
      htidy.faultless
    exact ⟨runCommand_script hrecorded container command timeout,
      (runCommand_of_faultless hrecorded timeout).2⟩
  aside call host haside htidy := by
    obtain ⟨_, hfiles⟩ := respond_of_faultless range htidy.faultless call
    refine ⟨hfiles ?_, respond_script htidy.faultless haside⟩
    cases call with
    | exec _ _ _ | allocatePort _ _ | releaseAllPorts _ | createNetwork _ | deleteNetwork _ =>
        exact haside.elim
    | _ => trivial

end SimulatedHost

end ContainerNetwork
