import ContainerNetwork.Failure
import ContainerNetwork.Proofs.Except

/-!
# Failures at any depth

A combined failure has causes, and these may be combined themselves.  The leaves of a failure are
what went wrong in the end, from left to right.  Combining the results of steps loses none of them
and adds none, and it combines no fewer than two, so that one failure stands for itself and the
message of several is that of their leaves.
-/

namespace ContainerNetwork

namespace Causes

variable {ε : Type}

/-- The failure of a step that failed. -/
def failure? : Except ε Unit → Option ε
  | .ok () => none
  | .error failure => some failure

theorem toList_foldl_record (causes : Causes ε) (results : List (Except ε Unit)) :
    (results.foldl record causes).toList = causes.toList ++ results.filterMap failure? := by
  induction results generalizing causes with
  | nil => exact (List.append_nil _).symm
  | cons result rest ih =>
      rw [List.foldl_cons, ih]
      cases result with
      | ok value => rfl
      | error failure => exact List.append_assoc _ _ _

@[simp]
theorem toList_ofResults (results : List (Except ε Unit)) :
    (ofResults results).toList = results.filterMap failure? :=
  toList_foldl_record {} results

end Causes

namespace Failure

mutual

/-- The causes of a failure that are not combined of others. -/
def leaves : Failure → List Failure
  | combined causes => leavesOfAll causes
  | failure => [failure]

def leavesOfAll : List Failure → List Failure
  | [] => []
  | cause :: rest => leaves cause ++ leavesOfAll rest

end

theorem leavesOfAll_eq (causes : List Failure) : leavesOfAll causes = causes.flatMap leaves := by
  induction causes with
  | nil => rfl
  | cons cause rest ih => exact congrArg (cause.leaves ++ ·) ih

@[simp]
theorem leaves_combined (causes : List Failure) :
    (combined causes).leaves = causes.flatMap leaves := leavesOfAll_eq causes

@[simp]
theorem leaves_host (fault : HostFault) : (host fault).leaves = [host fault] := rfl

/-- The leaves of what a computation ends in, of which a success has none. -/
def leavesOf {α : Type} : Except Failure α → List Failure
  | .ok _ => []
  | .error failure => failure.leaves

@[simp]
theorem leavesOf_ok {α : Type} (value : α) : leavesOf (.ok value) = [] := rfl

@[simp]
theorem leavesOf_error {α : Type} (failure : Failure) :
    leavesOf (.error failure : Except Failure α) = failure.leaves := rfl

/-- A fault of the host is not combined of others. -/
theorem mapError_host_eq_error_iff {α : Type} {result : Except HostFault α} {fault : HostFault} :
    result.mapError host = .error (host fault) ↔
      host fault ∈ leavesOf (result.mapError host) := by
  cases result with
  | error other => simp [eq_comm]
  | ok value => simp

theorem leavesOf_combine_eq (causes : Causes Failure) :
    leavesOf (combine causes) = causes.toList.flatMap leaves := by
  unfold combine Causes.result
  split
  case h_1 hnone => rw [hnone]; rfl
  case h_2 failure hone => rw [hone]; exact (List.append_nil failure.leaves).symm
  case h_3 => exact leaves_combined causes.toList

theorem flatMap_leaves_failures (results : List (Except Failure Unit)) :
    (results.filterMap Causes.failure?).flatMap leaves = results.flatMap leavesOf := by
  induction results with
  | nil => rfl
  | cons result rest ih =>
      cases result with
      | ok value => exact ih
      | error failure => exact congrArg (failure.leaves ++ ·) ih

/-- Combining the results of steps keeps the leaves of all of them, in the order of the steps. -/
theorem leavesOf_combine (results : List (Except Failure Unit)) :
    leavesOf (combine (.ofResults results)) = results.flatMap leavesOf := by
  rw [leavesOf_combine_eq, Causes.toList_ofResults, flatMap_leaves_failures]

/-! ## Gathered failures -/

/-- A failure as combining the results of steps builds it: a leaf, or several such failures. -/
inductive Gathered : Failure → Prop
  | leaf {failure : Failure} (hleaf : failure.leaves = [failure]) : Gathered failure
  | combined {causes : List Failure} (hseveral : 2 ≤ causes.length)
      (hcauses : ∀ cause ∈ causes, Gathered cause) : Gathered (combined causes)

theorem gathered_host (fault : HostFault) : Gathered (host fault) := .leaf rfl

/-- Joining joined texts joins all of the texts, as long as no join is of none. -/
theorem joined_map_joined {parts : List (List String)} (hparts : ∀ part ∈ parts, part ≠ []) :
    joined (parts.map joined) = joined parts.flatten := by
  induction parts with
  | nil => rfl
  | cons part rest ih =>
      obtain ⟨hpart, hrest⟩ := List.forall_mem_cons.mp hparts
      cases rest with
      | nil => simp only [joined, Pieces.join, List.map_cons, List.map_nil,
          String.intercalate_singleton, List.flatten_cons, List.flatten_nil, List.append_nil]
      | cons next others =>
          have hothers : (next :: others).flatten ≠ [] := by
            simp [hrest next List.mem_cons_self]
          calc
            joined ((part :: next :: others).map joined) =
                joined part ++ ", " ++ joined ((next :: others).map joined) :=
              String.intercalate_cons_of_ne_nil (List.cons_ne_nil _ _)
            _ = joined part ++ ", " ++ joined (next :: others).flatten := by rw [ih hrest]
            _ = joined (part :: next :: others).flatten :=
              (String.intercalate_append_of_ne_nil hpart hothers).symm

namespace Gathered

variable {failure : Failure}

theorem leaves_ne_nil (hfailure : Gathered failure) : failure.leaves ≠ [] := by
  induction hfailure with
  | leaf hleaf =>
      rw [hleaf]
      exact List.cons_ne_nil _ _
  | @combined causes hseveral hcauses ih =>
      obtain ⟨cause, hcause⟩ :=
        List.exists_mem_of_length_pos (Nat.lt_of_lt_of_le Nat.two_pos hseveral)
      rw [leaves_combined]
      exact fun hnil => ih cause hcause (List.flatMap_eq_nil_iff.mp hnil cause hcause)

/-- The message of a failure is that of its leaves, joined. -/
theorem message_eq (hfailure : Gathered failure) :
    failure.message = joined (failure.leaves.map message) := by
  induction hfailure with
  | leaf hleaf =>
      rw [hleaf, joined, Pieces.join, List.map_singleton, String.intercalate_singleton]
  | @combined causes hseveral hcauses ih =>
      let texts (cause : Failure) : List String := cause.leaves.map message
      have htexts : ∀ part ∈ causes.map texts, part ≠ [] := by
        intro part hpart hnil
        obtain ⟨cause, hcause, rfl⟩ := List.mem_map.mp hpart
        exact (hcauses cause hcause).leaves_ne_nil (List.map_eq_nil_iff.mp hnil)
      calc
        (Failure.combined causes).message = joined (causes.map message) := by rw [Failure.message]
        _ = joined ((causes.map texts).map joined) := by
          rw [List.map_map]
          exact congrArg joined (List.map_congr_left ih)
        _ = joined (causes.map texts).flatten := joined_map_joined htexts
        _ = joined ((Failure.combined causes).leaves.map message) := by
          rw [leaves_combined, List.map_flatMap, List.flatMap_def]

/-- A combined failure has a leaf for each of its causes. -/
theorem length_le {causes : List Failure} (hcauses : ∀ cause ∈ causes, Gathered cause) :
    causes.length ≤ (causes.flatMap leaves).length := by
  induction causes with
  | nil => exact Nat.le_refl 0
  | cons cause rest ih =>
      obtain ⟨hcause, hrest⟩ := List.forall_mem_cons.mp hcauses
      have hpos := List.length_pos_iff.mpr hcause.leaves_ne_nil
      rw [List.flatMap_cons, List.length_append, List.length_cons, Nat.add_comm]
      exact Nat.add_le_add hpos (ih hrest)

/-- A failure with a single leaf is that leaf. -/
theorem eq_of_leaves (hfailure : Gathered failure) {leaf : Failure}
    (hleaves : failure.leaves = [leaf]) : failure = leaf := by
  cases hfailure with
  | leaf hleaf => exact List.singleton_inj.mp (hleaf.symm.trans hleaves)
  | combined hseveral hcauses =>
      have hlength := length_le hcauses
      rw [← leaves_combined, hleaves] at hlength
      exact absurd (Nat.le_trans hseveral hlength) (Nat.not_succ_le_self 1)

end Gathered

/-- The failure that a computation ends in, if it does, is gathered. -/
def EndsGathered {α : Type} (result : Except Failure α) : Prop :=
  ∀ failure, result = .error failure → Gathered failure

theorem endsGathered_mapError_host {α : Type} (answer : Except HostFault α) :
    EndsGathered (answer.mapError host) := by
  intro failure hfailure
  cases answer with
  | ok value => cases hfailure
  | error fault =>
      cases hfailure
      exact gathered_host fault

/-- Combining results of which each ends in a gathered failure ends in one. -/
theorem endsGathered_combine {results : List (Except Failure Unit)}
    (hresults : ∀ result ∈ results, EndsGathered result) :
    EndsGathered (combine (.ofResults results)) := by
  have hcauses : ∀ cause ∈ (Causes.ofResults results).toList, Gathered cause := by
    intro cause hcause
    rw [Causes.toList_ofResults] at hcause
    obtain ⟨result, hresult, hfailed⟩ := List.mem_filterMap.mp hcause
    cases result with
    | ok value => cases hfailed
    | error found =>
        cases hfailed
        exact hresults (.error cause) hresult cause rfl
  intro failure hfailure
  unfold combine Causes.result at hfailure
  split at hfailure
  case h_1 hnone => cases hfailure
  case h_2 lone hlone =>
    cases hfailure
    exact hcauses failure (hlone ▸ List.mem_singleton_self failure)
  case h_3 hsome hother =>
    cases hfailure
    refine .combined ?_ hcauses
    match (Causes.ofResults results).toList, hsome, hother with
    | [], hsome, _ => exact absurd rfl hsome
    | [lone], _, hother => exact absurd rfl (hother lone)
    | _ :: _ :: _, _, _ => exact Nat.le_add_left 2 _

/-- What a result says of failures: it is a success exactly if there are none, it is the failure
if there is one, and in any case its leaves are the failures and its message is theirs, joined. -/
structure Reports (failures : List Failure) (result : Except Failure Unit) : Prop where
  ok_iff : result = .ok () ↔ failures = []
  lone : ∀ failure, failures = [failure] → result = .error failure
  leaves : ∀ failure, result = .error failure → failure.leaves = failures
  message : ∀ failure, result = .error failure →
    failure.message = joined (failures.map Failure.message)

/-- A result of gathered failures reports its leaves. -/
theorem reports_leavesOf {result : Except Failure Unit} (hresult : EndsGathered result) :
    Reports (leavesOf result) result := by
  cases result with
  | ok value =>
      exact
        { ok_iff := iff_of_true rfl rfl
          lone := fun failure hlone => by cases hlone
          leaves := fun failure herror => by cases herror
          message := fun failure herror => by cases herror }
  | error failure =>
      have hfailure := hresult failure rfl
      constructor
      case ok_iff =>
        exact iff_of_false (fun hok => by cases hok) hfailure.leaves_ne_nil
      case lone =>
        intro leaf hleaf
        rw [hfailure.eq_of_leaves hleaf]
      case leaves =>
        intro other hother
        cases hother
        rfl
      case message =>
        intro other hother
        cases hother
        exact hfailure.message_eq

end Failure

end ContainerNetwork
