import ContainerNetwork.Proofs.Failure
import Mathlib.Data.List.Basic

/-!
# Nested steps

A step of a teardown may itself be made of steps.  Each group of steps combines the results of its
steps, and what comes out is as nested as the steps are, except that a group without a failure
leaves no trace and a group with one failure none but that.  Whatever the nesting, the result tells
the failures of all single steps, in their order.
-/

namespace ContainerNetwork

namespace Failure

/-- A failure that is not combined of others. -/
def IsSimple : Failure → Prop
  | combined _ => False
  | _ => True

theorem IsSimple.leaves_eq {failure : Failure} (hsimple : failure.IsSimple) :
    failure.leaves = [failure] := by
  cases failure with
  | combined causes => exact hsimple.elim
  | _ => rfl

theorem isSimple_of_mem_leaves {leaf failure : Failure} (hleaf : leaf ∈ failure.leaves) :
    leaf.IsSimple := by
  induction failure using Failure.rec
      (motive_2 := fun causes => leaf ∈ leavesOfAll causes → leaf.IsSimple) with
  | combined causes ih => exact ih hleaf
  | nil hmem => cases hmem
  | cons cause rest ihcause ihrest hmem =>
      cases List.mem_append.mp hmem with
      | inl hmem => exact ihcause hmem
      | inr hmem => exact ihrest hmem
  | _ =>
      obtain rfl := List.mem_singleton.mp hleaf
      trivial

/-- One failure is part of another: the whole of it, or part of one of its causes. -/
inductive IsPartOf (part : Failure) : Failure → Prop
  | whole : IsPartOf part part
  | cause {causes : List Failure} {cause : Failure} (hcause : cause ∈ causes)
      (hpart : IsPartOf part cause) : IsPartOf part (combined causes)

/-- A failure that is combined of others is never its own leaf. -/
theorem leaves_combined_ne (causes : List Failure) :
    (combined causes).leaves ≠ [combined causes] := by
  intro hleaf
  exact isSimple_of_mem_leaves (hleaf ▸ List.mem_singleton_self (combined causes))

/-- Whatever is combined in a gathered failure, at any depth, is combined of several causes. -/
theorem Gathered.two_le_length {failure : Failure} (hfailure : Gathered failure)
    {causes : List Failure} (hpart : IsPartOf (.combined causes) failure) : 2 ≤ causes.length := by
  induction hpart with
  | whole =>
      cases hfailure with
      | leaf hleaf => exact absurd hleaf (leaves_combined_ne causes)
      | combined hseveral hcauses => exact hseveral
  | @cause others cause hcause hpart ih =>
      cases hfailure with
      | leaf hleaf => exact absurd hleaf (leaves_combined_ne others)
      | combined hseveral hcauses => exact ih (hcauses cause hcause)

end Failure

/-- The steps of a teardown as they are nested: a single step, with a result that is not combined of
others, or a group of steps. -/
inductive TeardownTree where
  | step (result : Except Failure Unit)
      (hsimple : ∀ failure, result = .error failure → failure.IsSimple)
  | group (steps : List TeardownTree)

namespace TeardownTree

@[elab_as_elim, induction_eliminator]
theorem induction {motive : TeardownTree → Prop}
    (step : ∀ result hsimple, motive (step result hsimple))
    (group : ∀ steps, (∀ tree ∈ steps, motive tree) → motive (group steps))
    (tree : TeardownTree) : motive tree := by
  apply TeardownTree.rec (motive_1 := motive)
    (motive_2 := fun steps => ∀ tree ∈ steps, motive tree) step group
  · exact List.forall_mem_nil motive
  · intro tree steps htree hsteps
    exact List.forall_mem_cons.mpr ⟨htree, hsteps⟩

mutual

/-- What the steps come to: a group combines the results of its steps, recorded in their order. -/
def result : TeardownTree → Except Failure Unit
  | step result _ => result
  | group steps => Failure.combine (.ofResults (resultsOf steps))

def resultsOf : List TeardownTree → List (Except Failure Unit)
  | [] => []
  | tree :: rest => result tree :: resultsOf rest

end

mutual

/-- The results of the single steps, from left to right. -/
def leaves : TeardownTree → List (Except Failure Unit)
  | step result _ => [result]
  | group steps => leavesOfAll steps

def leavesOfAll : List TeardownTree → List (Except Failure Unit)
  | [] => []
  | tree :: rest => leaves tree ++ leavesOfAll rest

end

theorem result_group (steps : List TeardownTree) :
    (group steps).result = Failure.combine (.ofResults (steps.map result)) := by
  have hresults : resultsOf steps = steps.map result := by
    induction steps with
    | nil => rfl
    | cons tree rest ih => exact congrArg (tree.result :: ·) ih
  rw [result, hresults]

theorem leaves_group (steps : List TeardownTree) :
    (group steps).leaves = steps.flatMap leaves := by
  rw [leaves]
  induction steps with
  | nil => rfl
  | cons tree rest ih => exact congrArg (tree.leaves ++ ·) ih

/-- The failures of the single steps, from left to right. -/
def failures (tree : TeardownTree) : List Failure := tree.leaves.filterMap Causes.failure?

/-- No failure of a single step is lost, and none is added. -/
theorem leavesOf_result (tree : TeardownTree) : Failure.leavesOf tree.result = tree.failures := by
  induction tree with
  | step result hsimple =>
      cases result with
      | ok value => rfl
      | error failure => exact (hsimple failure rfl).leaves_eq
  | group steps ih =>
      calc
        Failure.leavesOf (group steps).result =
            steps.flatMap fun tree => Failure.leavesOf tree.result := by
          rw [result_group, Failure.leavesOf_combine, List.flatMap_map]
        _ = steps.flatMap failures := List.flatMap_congr ih
        _ = (group steps).failures := by
          rw [failures, leaves_group, List.filterMap_flatMap]
          rfl

theorem endsGathered_result (tree : TeardownTree) : Failure.EndsGathered tree.result := by
  induction tree with
  | step result hsimple =>
      intro failure hfailure
      exact .leaf (hsimple failure hfailure).leaves_eq
  | group steps ih =>
      rw [result_group]
      apply Failure.endsGathered_combine
      intro result hresult
      obtain ⟨tree, htree, rfl⟩ := List.mem_map.mp hresult
      exact ih tree htree

theorem failures_eq_nil_iff (tree : TeardownTree) :
    tree.failures = [] ↔ ∀ result ∈ tree.leaves, result = .ok () := by
  rw [failures, List.filterMap_eq_nil_iff]
  apply forall₂_congr
  intro result _
  cases result with
  | ok value => exact iff_of_true rfl rfl
  | error failure => exact iff_of_false nofun nofun

/-- What the result of nested steps tells of the single ones. -/
structure Aggregated (tree : TeardownTree) : Prop where
  ok_iff : tree.result = .ok () ↔ ∀ result ∈ tree.leaves, result = .ok ()
  /-- Under all that is combined stand the failures of the single steps, in their order. -/
  leaves : ∀ failure, tree.result = .error failure → failure.leaves = tree.failures
  /-- Whatever is combined, at any depth, has several causes. -/
  several : ∀ failure causes, tree.result = .error failure →
    Failure.IsPartOf (.combined causes) failure → 2 ≤ causes.length
  message : ∀ failure, tree.result = .error failure →
    failure.message = Pieces.join ", " (tree.failures.map Failure.message)

/-- However steps are nested, what they come to tells all of their failures and nothing else. -/
theorem failures_aggregated (tree : TeardownTree) : tree.Aggregated := by
  have hgathered := tree.endsGathered_result
  have hreports := Failure.reports_leavesOf hgathered
  rw [leavesOf_result] at hreports
  exact
    { ok_iff := hreports.ok_iff.trans tree.failures_eq_nil_iff
      leaves := hreports.leaves
      several := fun failure _ hfailure hpart => (hgathered failure hfailure).two_le_length hpart
      message := hreports.message }

/-- A group that has nothing to tell, a group with one failure and a group with two. -/
example (first second third : HostFault) :
    let failed (fault : HostFault) : TeardownTree :=
      step (.error (.host fault)) fun _ hfailure => by cases hfailure; trivial
    (group [group [], group [failed first, step (.ok ()) nofun],
        group [failed second, failed third]]).result =
      .error (.combined [.host first, .combined [.host second, .host third]]) := rfl

end TeardownTree

end ContainerNetwork
