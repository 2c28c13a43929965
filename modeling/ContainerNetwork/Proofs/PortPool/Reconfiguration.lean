import ContainerNetwork.Proofs.PortPool.Exclusion

/-!
# The pool across managed ranges

The pool file outlives the settings: every use of it may come with a managed range of its own.  A
port that is asked for is granted or refused by the range of that use alone, so a port that was
given out under another range, and is still held, may be granted again.  That is all that can
happen: such a port was found in the file or given out by an earlier use, under a range with the
port, and was not released since.  While ranges only ever grow, no held port is granted.
-/

namespace ContainerNetwork.PortPool

/-- A finite run of uses from a tree on, each with the managed range it was made under. -/
inductive RangedRun (place : FilePlace) : FileTree → List (ManagedRange × Step) → Prop
  | done (tree : FileTree) : RangedRun place tree []
  | step {tree : FileTree} {range : ManagedRange} {step : Step} {rest : List (ManagedRange × Step)}
      (hsame : SameFile place step.before tree) (hperformed : step.Performed place range)
      (hrest : RangedRun place step.after rest) : RangedRun place tree ((range, step) :: rest)

/-- Where a holder has a port from: the tree that the steps began with, or a step among them under
whose range the port is managed.  No step since then released the holder. -/
inductive Origin (place : FilePlace) (tree : FileTree) (steps : List (ManagedRange × Step))
    (port : UInt16) (holder : String) : Prop
  | found (hfound : reservedFor? place tree port = some holder)
      (hkept : ∀ later ∈ steps, ¬later.2.Releases holder)
  | given (before between : List (ManagedRange × Step)) (range : ManagedRange) (giving : Step)
      (hsteps : steps = before ++ (range, giving) :: between)
      (hgrants : giving.Grants holder 0 port) (hmanaged : range.Contains port)
      (hkept : ∀ later ∈ between, ¬later.2.Releases holder)

variable {place : FilePlace} {range : ManagedRange} {tree : FileTree} {step : Step}
variable {earlier later steps : List (ManagedRange × Step)}
variable {handle holder : String} {port : UInt16}

/-! ## One step -/

namespace Step.Performed

/-- A port that is asked for is granted or refused by the range alone, and the tree is left as it
is. -/
theorem decided (hstep : step.Performed place range) (huse : step.use = .allocate handle port)
    (hport : port ≠ 0) :
    step.result = (if range.Contains port then .error (.explicitPortInRange port)
      else .ok (some port)) ∧ step.after = step.before := by
  have hrun : (step.use.perform place range).runOn step.before =
      (if range.Contains port then .error (.explicitPortInRange port) else .ok (some port),
        step.before) := by
    rw [huse, Use.perform, FileAction.runOn_bind, allocate_explicit_runOn hport]
    by_cases hmanaged : range.Contains port
    · rw [if_pos hmanaged, if_pos hmanaged]
    · rw [if_neg hmanaged, if_neg hmanaged]
      rfl
  exact Prod.mk.inj (hstep.symm.trans hrun)

/-- A holder has a port from the step itself, or had it before and was not released. -/
theorem origin (hstep : step.Performed place range)
    (hheld : reservedFor? place step.after port = some holder) :
    (step.Grants holder 0 port ∧ range.Contains port) ∨
      (reservedFor? place step.before port = some holder ∧ ¬step.Releases holder) := by
  cases hstep.effect with
  | failed failure hresult hsame =>
      rw [hsame] at hheld
      exact .inr ⟨hheld, fun hreleases => by cases hreleases.2.symm.trans hresult⟩
  | unmanaged other granted hport hgrants hunmanaged hsame =>
      rw [hsame] at hheld
      exact .inr ⟨hheld, hgrants.not_releases⟩
  | reserved other granted hgrants hmanaged hfree hafter =>
      rw [hafter] at hheld
      split at hheld
      · rename_i heq
        cases hheld
        exact .inl (heq ▸ ⟨hgrants, hmanaged⟩)
      · exact .inr ⟨hheld, hgrants.not_releases⟩
  | released other hreleases hafter =>
      rw [hafter, Option.filter_eq_some_iff] at hheld
      refine .inr ⟨hheld.1, fun hother => ?_⟩
      have huse := hreleases.1.symm.trans hother.1
      cases huse
      simp at hheld

end Step.Performed

/-! ## Whole runs -/

/-- The run of some uses, each under its range on the tree that the one before it left. -/
def rangedHistory (place : FilePlace) : FileTree → List (ManagedRange × Use) →
    List (ManagedRange × Step)
  | _, [] => []
  | tree, (range, use) :: rest =>
      let step := Step.of place range use tree
      (range, step) :: rangedHistory place step.after rest

theorem rangedHistory_run (place : FilePlace) (tree : FileTree)
    (uses : List (ManagedRange × Use)) : RangedRun place tree (rangedHistory place tree uses) := by
  induction uses generalizing tree with
  | nil => exact .done tree
  | cons use rest ih => exact .step (fun _ _ => rfl) rfl (ih _)

namespace RangedRun

/-- A run goes on with the rest of its steps after each of them. -/
theorem performed (hrun : RangedRun place tree steps) (hmem : (range, step) ∈ steps) :
    step.Performed place range := by
  induction hrun with
  | done tree => cases hmem
  | step hsame hperformed hrest ih =>
      rcases List.mem_cons.mp hmem with heq | hmem
      · cases heq
        exact hperformed
      · exact ih hmem

theorem origin (hrun : RangedRun place tree (earlier ++ (range, step) :: later))
    (hheld : reservedFor? place step.before port = some holder) :
    Origin place tree earlier port holder := by
  induction earlier generalizing tree with
  | nil =>
      cases hrun with
      | step hsame _ _ =>
          rw [hsame.reservedFor?] at hheld
          exact .found hheld (by simp)
  | cons head rest ih =>
      cases hrun with
      | @step _ first taken _ hsame hperformed hrest =>
          cases ih hrest with
          | found hfound hkept =>
              rcases hperformed.origin hfound with ⟨hgrants, hmanaged⟩ | ⟨hbefore, hnot⟩
              · exact .given [] rest first taken rfl hgrants hmanaged hkept
              · rw [hsame.reservedFor?] at hbefore
                exact .found hbefore (List.forall_mem_cons.mpr ⟨hnot, hkept⟩)
          | given before between range giving hsteps hgrants hmanaged hkept =>
              exact .given ((first, taken) :: before) between range giving
                (by rw [hsteps, List.cons_append]) hgrants hmanaged hkept

end RangedRun

/-- What the uses of a pool file that come with different ranges owe to the handles that hold
ports. -/
structure Reconfigurable (place : FilePlace) (tree : FileTree)
    (steps : List (ManagedRange × Step)) : Prop where
  /-- A port that is asked for is granted exactly if the range of the use does not contain it; the
  tree, with the pool file in it, has no part in that and stays as it is. -/
  decided : ∀ range step handle port, (range, step) ∈ steps →
    step.use = .allocate handle port → port ≠ 0 →
      step.result = (if range.Contains port then .error (.explicitPortInRange port)
        else .ok (some port)) ∧ step.after = step.before
  /-- Every holder of a port that is granted nevertheless has it from outside of the range. -/
  inherited : ∀ earlier range step later handle port holder,
    steps = earlier ++ (range, step) :: later → step.Grants handle port port → port ≠ 0 →
      reservedFor? place step.before port = some holder →
        ¬range.Contains port ∧ Origin place tree earlier port holder
  /-- Under a range that contains all earlier ones and the ports of the file that was found, no held
  port is granted. -/
  respected : ∀ earlier range step later handle port,
    steps = earlier ++ (range, step) :: later → step.Grants handle port port → port ≠ 0 →
      (∀ found, reservedFor? place tree found ≠ none → range.Contains found) →
      (∀ given ∈ earlier, ∀ managed, given.1.Contains managed → range.Contains managed) →
        reservedFor? place step.before port = none

/-- Whatever ranges the uses of a pool file come with, a held port is granted again only where it is
held under another range. -/
theorem explicit_ports_decided_by_range (hrun : RangedRun place tree steps) :
    Reconfigurable place tree steps where
  decided range step handle port hmem huse hport := (hrun.performed hmem).decided huse hport
  inherited earlier range step later handle port holder hsteps hgrants hport hheld := by
    subst hsteps
    have hstep := hrun.performed (List.mem_append_right _ List.mem_cons_self)
    exact ⟨hstep.not_contains hport hgrants, hrun.origin hheld⟩
  respected earlier range step later handle port hsteps hgrants hport hfile hranges := by
    subst hsteps
    have hstep := hrun.performed (List.mem_append_right _ List.mem_cons_self)
    have hunmanaged := hstep.not_contains hport hgrants
    refine Option.eq_none_iff_forall_ne_some.mpr fun holder hheld => hunmanaged ?_
    cases hrun.origin hheld with
    | found hfound _ => exact hfile port (by simp [hfound])
    | given before between other giving hearlier _ hmanaged _ =>
        exact hranges (other, giving) (by simp [hearlier]) port hmanaged

/-- The range moves away from a held port, and then takes it in again. -/
theorem explicit_ports_decided_of_moving_range :
    let steps := rangedHistory ⟨["var"], "pool.json"⟩ ⟨[]⟩
      [(⟨40000, 10⟩, .allocate "first" 0), (⟨50000, 10⟩, .allocate "second" 40000),
        (⟨30000, 20000⟩, .allocate "second" 40000)]
    steps.map (·.2.result.toOption) = [some (some 40000), some (some 40000), none] ∧
      Reconfigurable ⟨["var"], "pool.json"⟩ ⟨[]⟩ steps :=
  ⟨by decide +kernel, explicit_ports_decided_by_range (rangedHistory_run _ _ _)⟩

/-- Under a range that does not contain it, a port is granted though another handle holds it. -/
theorem held_port_granted_under_other_range :
    let steps := rangedHistory ⟨["var"], "pool.json"⟩ ⟨[]⟩
      [(⟨40000, 10⟩, .allocate "first" 0), (⟨50000, 10⟩, .allocate "second" 40000)]
    RangedRun ⟨["var"], "pool.json"⟩ ⟨[]⟩ steps ∧
      steps.map (fun (_, step) => (step.use, step.result.toOption,
          reservedFor? ⟨["var"], "pool.json"⟩ step.before 40000)) =
        [(.allocate "first" 0, some (some 40000), none),
          (.allocate "second" 40000, some (some 40000), some "first")] :=
  ⟨rangedHistory_run _ _ _, by decide +kernel⟩

end ContainerNetwork.PortPool
