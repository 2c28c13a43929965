import ContainerNetwork.Proofs.PortPool.Assignment

/-!
# Runs of pool uses

Any number of handles use one pool file, in any order.  Between two uses the tree may change in
every way that leaves the pool file alone, so that each use may fail wherever it can fail.  A port
belongs to at most one handle, from its grant to the next successful release.
-/

namespace ContainerNetwork.PortPool

/-- What a handle may ask the pool for. -/
inductive Use where
  | allocate (handle : String) (port : UInt16)
  | releaseAll (handle : String)
  deriving DecidableEq

/-- Makes one use of the pool, which answers with the port it grants. -/
def Use.perform (place : FilePlace) (range : ManagedRange) :
    Use → FileAction Failure (Option UInt16)
  | .allocate handle port => do return some (← PortPool.allocate place range handle port)
  | .releaseAll handle => do
      PortPool.releaseAll place handle
      return none

/-- One use of the pool in a run, with the trees before and after it. -/
structure Step where
  use : Use
  before : FileTree
  result : Except Failure (Option UInt16)
  after : FileTree

namespace Step

/-- The step of a use made on a tree. -/
def of (place : FilePlace) (range : ManagedRange) (use : Use) (before : FileTree) : Step where
  use := use
  before := before
  result := ((use.perform place range).runOn before).1
  after := ((use.perform place range).runOn before).2

/-- The use of the step, made on the tree before it, gives its result and the tree after it. -/
def Performed (place : FilePlace) (range : ManagedRange) (step : Step) : Prop :=
  (step.use.perform place range).runOn step.before = (step.result, step.after)

/-- The step grants a port to a handle that asked for a certain one, or for any with zero. -/
def Grants (step : Step) (handle : String) (asked port : UInt16) : Prop :=
  step.use = .allocate handle asked ∧ step.result = .ok (some port)

/-- The step frees all ports of a handle. -/
def Releases (step : Step) (handle : String) : Prop :=
  step.use = .releaseAll handle ∧ step.result = .ok none

end Step

/-- A finite run of uses from a tree on. -/
inductive Run (place : FilePlace) (range : ManagedRange) : FileTree → List Step → Prop
  | done (tree : FileTree) : Run place range tree []
  | step {tree : FileTree} {step : Step} {rest : List Step}
      (hsame : SameFile place step.before tree) (hperformed : step.Performed place range)
      (hrest : Run place range step.after rest) : Run place range tree (step :: rest)

variable {place : FilePlace} {range : ManagedRange} {tree : FileTree}
variable {step next : Step} {steps earlier between later : List Step}
variable {handle : String} {asked port : UInt16}

/-! ## One step -/

namespace Step

/-- What one step does to the pool: nothing where it fails or grants a port that is not managed, or
else one grant of a free managed port or one release. -/
inductive Effect (place : FilePlace) (range : ManagedRange) (step : Step) : Prop where
  | failed (failure : Failure) (hresult : step.result = .error failure)
      (hsame : reservedFor? place step.after = reservedFor? place step.before)
  | unmanaged (handle : String) (port : UInt16) (hport : port ≠ 0)
      (hgrants : step.Grants handle port port) (hunmanaged : ¬range.Contains port)
      (hsame : reservedFor? place step.after = reservedFor? place step.before)
  | reserved (handle : String) (port : UInt16) (hgrants : step.Grants handle 0 port)
      (hmanaged : range.Contains port) (hfree : reservedFor? place step.before port = none)
      (hafter : ∀ other, reservedFor? place step.after other =
        if other = port then some handle else reservedFor? place step.before other)
  | released (handle : String) (hreleases : step.Releases handle)
      (hafter : ∀ port, reservedFor? place step.after port =
        (reservedFor? place step.before port).filter fun holder => holder ≠ handle)

theorem Grants.unique {other : String} {otherAsked otherPort : UInt16}
    (hfirst : step.Grants handle asked port) (hsecond : step.Grants other otherAsked otherPort) :
    handle = other ∧ asked = otherAsked ∧ port = otherPort := by
  have huse := hfirst.1.symm.trans hsecond.1
  have hresult := hfirst.2.symm.trans hsecond.2
  cases huse
  cases hresult
  exact ⟨rfl, rfl, rfl⟩

theorem Grants.not_releases {other : String} (hgrants : step.Grants handle asked port) :
    ¬step.Releases other := by
  intro hreleases
  have huse := hgrants.1.symm.trans hreleases.1
  cases huse

theorem Grants.result_ne_error {failure : Failure} (hgrants : step.Grants handle asked port) :
    step.result ≠ .error failure := by
  intro hresult
  have hgranted := hgrants.2.symm.trans hresult
  cases hgranted

namespace Performed

theorem effect (hstep : step.Performed place range) : Effect place range step := by
  obtain ⟨use, before, result, after⟩ := step
  rw [Performed] at hstep
  cases use with
  | allocate handle asked =>
      simp only [Use.perform, FileAction.runOn_bind] at hstep
      by_cases hasked : asked = 0
      · subst hasked
        rcases hrun : (allocate place range handle 0).runOn before with ⟨answer, middle⟩
        rw [hrun] at hstep
        rcases allocate_zero_reservedFor? hrun with
          ⟨port, rfl, hmanaged, hfree, hafter⟩ | ⟨⟨failure, rfl⟩, hsame⟩
        · cases hstep
          exact .reserved handle port ⟨rfl, rfl⟩ hmanaged hfree hafter
        · cases hstep
          exact .failed failure rfl hsame
      · rw [allocate_explicit_runOn hasked] at hstep
        by_cases hmanaged : range.Contains asked
        · rw [if_pos hmanaged] at hstep
          cases hstep
          exact .failed _ rfl rfl
        · rw [if_neg hmanaged] at hstep
          cases hstep
          exact .unmanaged handle asked hasked ⟨rfl, rfl⟩ hmanaged rfl
  | releaseAll handle =>
      simp only [Use.perform, FileAction.runOn_bind] at hstep
      rcases hrun : (releaseAll place handle).runOn before with ⟨answer, middle⟩
      rw [hrun] at hstep
      rcases releaseAll_reservedFor? hrun with ⟨rfl, hafter⟩ | ⟨⟨failure, rfl⟩, hsame⟩
      · cases hstep
        exact .released handle ⟨rfl, rfl⟩ hafter
      · cases hstep
        exact .failed failure rfl hsame

/-- A port that is given out was free and then belongs to the handle that asked for any. -/
theorem granted (hstep : step.Performed place range) (hgrants : step.Grants handle 0 port) :
    reservedFor? place step.before port = none ∧
      reservedFor? place step.after port = some handle := by
  cases hstep.effect with
  | failed failure hresult hsame => exact absurd hresult hgrants.result_ne_error
  | unmanaged other granted hport hothers hunmanaged hsame =>
      exact absurd (hgrants.unique hothers).2.1.symm hport
  | reserved other granted hothers hmanaged hfree hafter =>
      obtain ⟨rfl, _, rfl⟩ := hgrants.unique hothers
      refine ⟨hfree, ?_⟩
      rw [hafter, if_pos rfl]
  | released other hreleases hafter => exact absurd hreleases hgrants.not_releases

/-- A port that is granted because it was asked for is not managed. -/
theorem not_contains (hstep : step.Performed place range) (hasked : asked ≠ 0)
    (hgrants : step.Grants handle asked port) : ¬range.Contains port := by
  cases hstep.effect with
  | failed failure hresult hsame => exact absurd hresult hgrants.result_ne_error
  | unmanaged other granted hport hothers hunmanaged hsame =>
      obtain ⟨_, _, rfl⟩ := hgrants.unique hothers
      exact hunmanaged
  | reserved other granted hothers hmanaged hfree hafter =>
      exact absurd (hgrants.unique hothers).2.1 hasked
  | released other hreleases hafter => exact absurd hreleases hgrants.not_releases

/-- Every step keeps the reserved ports managed. -/
theorem managed (hstep : step.Performed place range)
    (hmanaged : ∀ port, reservedFor? place step.before port ≠ none → range.Contains port) :
    ∀ port, reservedFor? place step.after port ≠ none → range.Contains port := by
  intro port hreserved
  cases hstep.effect with
  | failed failure hresult hsame =>
      rw [hsame] at hreserved
      exact hmanaged port hreserved
  | unmanaged handle granted hport hgrants hunmanaged hsame =>
      rw [hsame] at hreserved
      exact hmanaged port hreserved
  | reserved handle granted hgrants hgranted hfree hafter =>
      by_cases hport : port = granted
      · rw [hport]
        exact hgranted
      · rw [hafter, if_neg hport] at hreserved
        exact hmanaged port hreserved
  | released handle hreleases hafter =>
      apply hmanaged port
      intro hnone
      rw [hafter, hnone] at hreserved
      exact hreserved rfl

/-- A handle keeps its port through every step that does not release it. -/
theorem kept (hstep : step.Performed place range)
    (hheld : reservedFor? place step.before port = some handle)
    (hkeeps : ¬step.Releases handle) : reservedFor? place step.after port = some handle := by
  cases hstep.effect with
  | failed failure hresult hsame => rw [hsame, hheld]
  | unmanaged other granted hport hgrants hunmanaged hsame => rw [hsame, hheld]
  | reserved other granted hgrants hmanaged hfree hafter =>
      have hport : port ≠ granted := by
        rintro rfl
        rw [hheld] at hfree
        cases hfree
      rw [hafter, if_neg hport, hheld]
  | released other hreleases hafter =>
      have hother : handle ≠ other := by
        rintro rfl
        exact hkeeps hreleases
      rw [hafter, hheld]
      simpa using hother

end Performed

end Step

/-! ## Whole runs -/

/-- The run of some uses, each made on the tree that the one before it left. -/
def history (place : FilePlace) (range : ManagedRange) : FileTree → List Use → List Step
  | _, [] => []
  | tree, use :: rest =>
      let step := Step.of place range use tree
      step :: history place range step.after rest

theorem history_run (place : FilePlace) (range : ManagedRange) (tree : FileTree)
    (uses : List Use) : Run place range tree (history place range tree uses) := by
  induction uses generalizing tree with
  | nil => exact .done tree
  | cons use rest ih => exact .step (fun _ _ => rfl) rfl (ih _)

namespace Run

/-- A run goes on with the rest of its steps after each of them. -/
theorem of_append (hrun : Run place range tree (earlier ++ step :: later)) :
    step.Performed place range ∧ Run place range step.after later := by
  induction earlier generalizing tree with
  | nil =>
      cases hrun with
      | step _ hperformed hrest => exact ⟨hperformed, hrest⟩
  | cons head rest ih =>
      cases hrun with
      | step _ _ hrest => exact ih hrest

theorem performed (hrun : Run place range tree steps) (hstep : step ∈ steps) :
    step.Performed place range := by
  obtain ⟨earlier, later, rfl⟩ := List.mem_iff_append.mp hstep
  exact hrun.of_append.1

/-- What the steps of a run preserve of the holders, they preserve up to every step. -/
theorem invariant (invariant : (UInt16 → Option String) → Prop)
    (hrun : Run place range tree (between ++ next :: later))
    (hstart : invariant (reservedFor? place tree))
    (hsteps : ∀ step ∈ between, step.Performed place range →
      invariant (reservedFor? place step.before) → invariant (reservedFor? place step.after)) :
    invariant (reservedFor? place next.before) := by
  induction between generalizing tree with
  | nil =>
      cases hrun with
      | step hsame _ _ => rwa [hsame.reservedFor?]
  | cons head rest ih =>
      cases hrun with
      | step hsame hperformed hrest =>
          rw [← hsame.reservedFor?] at hstart
          have hhead := hsteps head List.mem_cons_self hperformed hstart
          exact ih hrest hhead fun step hstep => hsteps step (List.mem_cons_of_mem _ hstep)

/-- In a run from nothing, every reserved port is managed before and after every step. -/
theorem managed (habsent : Absent place tree) (hrun : Run place range tree steps)
    (hstep : step ∈ steps) :
    (∀ port, reservedFor? place step.before port ≠ none → range.Contains port) ∧
      ∀ port, reservedFor? place step.after port ≠ none → range.Contains port := by
  obtain ⟨earlier, later, rfl⟩ := List.mem_iff_append.mp hstep
  have hbefore : ∀ port, reservedFor? place step.before port ≠ none → range.Contains port := by
    refine hrun.invariant (fun holders => ∀ port, holders port ≠ none → range.Contains port)
      (fun port hreserved => ?_) fun other _ hperformed => hperformed.managed
    exact absurd (reservedFor?_absent habsent port) hreserved
  exact ⟨hbefore, hrun.of_append.1.managed hbefore⟩

/-- From its grant on a port stays with its handle until a step releases the handle. -/
theorem held (hrun : Run place range tree (earlier ++ step :: between ++ next :: later))
    (hgrants : step.Grants handle 0 port) (hkeeps : ∀ other ∈ between, ¬other.Releases handle) :
    reservedFor? place next.before port = some handle := by
  rw [List.append_assoc] at hrun
  obtain ⟨hperformed, hrest⟩ := hrun.of_append
  exact hrest.invariant (fun holders => holders port = some handle)
    (hperformed.granted hgrants).2 fun other hother hstep hheld =>
      hstep.kept hheld (hkeeps other hother)

end Run

/-- What the steps of a run owe to the handles that share the pool. -/
structure Exclusive (place : FilePlace) (range : ManagedRange) (steps : List Step) : Prop where
  /-- Every reserved port is managed. -/
  managed : ∀ step ∈ steps, ∀ port handle,
    reservedFor? place step.before port = some handle ∨
      reservedFor? place step.after port = some handle → range.Contains port
  /-- A port that the pool gives out was free, and belongs to its handle up to and through every
  later step, until one releases the handle. -/
  held : ∀ earlier step later handle port, steps = earlier ++ step :: later →
    step.Grants handle 0 port →
      reservedFor? place step.before port = none ∧
      reservedFor? place step.after port = some handle ∧
      ∀ between next rest, later = between ++ next :: rest →
        (∀ other ∈ between, ¬other.Releases handle) →
          reservedFor? place next.before port = some handle ∧
          (¬next.Releases handle → reservedFor? place next.after port = some handle)
  /-- A port that is granted because it was asked for is reserved at no point of the run. -/
  unreserved : ∀ granting ∈ steps, ∀ handle asked port, asked ≠ 0 →
    granting.Grants handle asked port → ∀ step ∈ steps,
      reservedFor? place step.before port = none ∧ reservedFor? place step.after port = none

/-- Host ports are exclusive through every run from an absent pool file. -/
theorem ports_exclusive (habsent : Absent place tree) (hrun : Run place range tree steps) :
    Exclusive place range steps where
  managed step hstep port handle hreserved := by
    obtain ⟨hbefore, hafter⟩ := hrun.managed habsent hstep
    rcases hreserved with hreserved | hreserved
    · exact hbefore port (by simp [hreserved])
    · exact hafter port (by simp [hreserved])
  held earlier step later handle port hsteps hgrants := by
    subst hsteps
    obtain ⟨hfree, hheld⟩ := hrun.of_append.1.granted hgrants
    refine ⟨hfree, hheld, fun between next rest hlater hkeeps => ?_⟩
    subst hlater
    rw [← List.cons_append, ← List.append_assoc] at hrun
    have hbefore := hrun.held hgrants hkeeps
    exact ⟨hbefore, hrun.of_append.1.kept hbefore⟩
  unreserved granting hgranting handle asked port hasked hgrants step hstep := by
    have hunmanaged := (hrun.performed hgranting).not_contains hasked hgrants
    obtain ⟨hbefore, hafter⟩ := hrun.managed habsent hstep
    constructor
    · exact Decidable.not_not.mp fun hreserved => hunmanaged (hbefore port hreserved)
    · exact Decidable.not_not.mp fun hreserved => hunmanaged (hafter port hreserved)

/-- Two handles share a range of one port, and the second gets it when the first is released. -/
theorem ports_exclusive_of_one_port :
    let steps := history ⟨["var"], "pool.json"⟩ ⟨61000, 1⟩ ⟨[]⟩
      [.allocate "first" 0, .allocate "second" 0, .allocate "second" 80, .releaseAll "first",
        .allocate "second" 0]
    steps.map (·.result.toOption) =
        [some (some 61000), none, some (some 80), some none, some (some 61000)] ∧
      Exclusive ⟨["var"], "pool.json"⟩ ⟨61000, 1⟩ steps := by
  refine ⟨by decide +kernel, ports_exclusive ?_ (history_run _ _ ⟨[]⟩ _)⟩
  intro path hplace
  cases hplace
  rfl

end ContainerNetwork.PortPool
