import ContainerNetwork.Proofs.PortPool.Update

/-!
# Giving out and taking back ports

The holder of every port, before and after each use of the pool.  A use that fails moves no port, a
grant moves one free managed port, and a release frees the ports of one handle.
-/

namespace ContainerNetwork

namespace PortPool

theorem holder?_reserve (pool : PortPool) (port other : UInt16) (handle : String) :
    (pool.reserve port handle).holder? other =
      if other = port then (pool.holder? port).or (some handle) else pool.holder? other :=
  SortedMap.get?_insertNew

theorem holder?_release (pool : PortPool) (handle : String) (port : UInt16) :
    (pool.release handle).holder? port = (pool.holder? port).filter fun holder => holder ≠ handle :=
  SortedMap.get?_filter

/-- Pools with the same holders are equal. -/
theorem ext_holder? {left right : PortPool} (h : ∀ port, left.holder? port = right.holder? port) :
    left = right :=
  congrArg PortPool.mk (SortedMap.ext_get? h)

theorem mem_ports {pool : PortPool} {port : UInt16} :
    port ∈ pool.ports ↔ pool.holder? port ≠ none := by
  rw [holder?, ne_eq, SortedMap.get?_eq_none_iff, not_not]
  rfl

/-- A second release finds nothing more to release. -/
theorem release_release (pool : PortPool) (handle : String) :
    (pool.release handle).release handle = pool.release handle := by
  apply ext_holder?
  intro port
  simp [holder?_release, Option.filter_filter]

theorem release_comm (pool : PortPool) (first second : String) :
    (pool.release first).release second = (pool.release second).release first := by
  apply ext_holder?
  intro port
  simp [holder?_release, Option.filter_filter, Bool.and_comm]

theorem ports_ascending (pool : PortPool) :
    (pool.ports.map UInt16.toNat).Pairwise (· < ·) := by
  rw [List.pairwise_map]
  exact pool.holders.keys_ascending.imp UInt16.lt_iff_toNat_lt.mp

end PortPool

namespace ManagedRange

theorem le_leastFree (start : Nat) (taken : List Nat) : start ≤ leastFree start taken := by
  induction taken generalizing start with
  | nil => exact Nat.le_refl start
  | cons head rest ih =>
      rw [leastFree]
      split
      · exact ih start
      · split
        · exact Nat.le_of_succ_le (ih (start + 1))
        · exact Nat.le_refl start

/-- The least free number is not taken. -/
theorem leastFree_not_mem {taken : List Nat} (hascending : taken.Pairwise (· < ·)) (start : Nat) :
    leastFree start taken ∉ taken := by
  induction taken generalizing start with
  | nil => exact List.not_mem_nil
  | cons head rest ih =>
      rw [List.pairwise_cons] at hascending
      rw [leastFree, List.mem_cons, not_or]
      split
      · rename_i hbelow
        have hle := le_leastFree start rest
        exact ⟨by omega, ih hascending.2 start⟩
      · split
        · rename_i hstart
          have hle := le_leastFree (start + 1) rest
          exact ⟨by omega, ih hascending.2 (start + 1)⟩
        · rename_i hnotBelow hother
          constructor
          · exact Ne.symm hother
          · intro hmem
            have hlt := hascending.1 start hmem
            omega

variable {range : ManagedRange} {pool : PortPool} {port : UInt16} {handle : String}

theorem toNat_of_lowestFree? (hlowest : range.lowestFree? pool = some port) :
    port.toNat = leastFree range.start.toNat (pool.ports.map UInt16.toNat) ∧
      port.toNat < range.stop := by
  simp only [lowestFree?] at hlowest
  split at hlowest
  · rename_i hstop
    have hspace := (Nat.lt_min.mp hstop).2
    rw [← Option.some.inj hlowest, UInt16.toNat_ofNat_of_lt' hspace]
    exact ⟨rfl, hstop⟩
  · cases hlowest

/-- The port that is given out is managed and free. -/
theorem lowestFree?_eq_some (hlowest : range.lowestFree? pool = some port) :
    range.Contains port ∧ pool.holder? port = none := by
  obtain ⟨hport, hstop⟩ := toNat_of_lowestFree? hlowest
  have hstart := le_leastFree range.start.toNat (pool.ports.map UInt16.toNat)
  have hfree := leastFree_not_mem pool.ports_ascending range.start.toNat
  rw [← hport] at hstart hfree
  constructor
  · exact ⟨hstart, (Nat.lt_min.mp hstop).1⟩
  · by_contra hheld
    exact hfree (List.mem_map_of_mem (PortPool.mem_ports.mpr hheld))

theorem acquire_eq_ok {chosen : PortPool}
    (hacquire : range.acquire pool handle = .ok (port, chosen)) :
    range.Contains port ∧ pool.holder? port = none ∧ chosen = pool.reserve port handle := by
  rw [acquire] at hacquire
  split at hacquire
  · cases hacquire
  · rename_i found hlowest
    cases hacquire
    obtain ⟨hcontains, hfree⟩ := lowestFree?_eq_some hlowest
    exact ⟨hcontains, hfree, rfl⟩

end ManagedRange

namespace PortPool

variable {place : FilePlace} {range : ManagedRange} {tree after : FileTree} {handle : String}

/-- The handle that a port is reserved for in the pool that stands at a place. -/
def reservedFor? (place : FilePlace) (tree : FileTree) (port : UInt16) : Option String :=
  (standing? place tree).bind (·.holder? port)

/-- A tree in which nothing is where the pool file would be. -/
def Absent (place : FilePlace) (tree : FileTree) : Prop :=
  ∀ path, place.location = .ok path → tree.find? path = none

/-- Trees that have the same entry where the pool file is, whatever else differs. -/
def SameFile (place : FilePlace) (left right : FileTree) : Prop :=
  ∀ path, place.location = .ok path → left.find? path = right.find? path

theorem reservedFor?_absent (habsent : Absent place tree) (port : UInt16) :
    reservedFor? place tree port = none := by
  cases hplace : place.location with
  | error failure => simp [reservedFor?, standing?, hplace]
  | ok path =>
      rw [reservedFor?, standing?_eq hplace, habsent path hplace]
      rfl

theorem SameFile.standing? {left right : FileTree} (hsame : SameFile place left right) :
    standing? place left = standing? place right := by
  cases hplace : place.location with
  | error failure => simp [PortPool.standing?, hplace]
  | ok path => rw [standing?_eq hplace, standing?_eq hplace, hsame path hplace]

theorem SameFile.reservedFor? {left right : FileTree} (hsame : SameFile place left right) :
    reservedFor? place left = reservedFor? place right := by
  funext port
  rw [PortPool.reservedFor?, PortPool.reservedFor?, hsame.standing?]

/-- A failed use moves no port. -/
theorem Unmoved.reservedFor? (hunmoved : Unmoved place tree after) :
    reservedFor? place after = reservedFor? place tree := by
  funext port
  rcases hunmoved with hsame | ⟨hempty, hnone⟩
  · rw [PortPool.reservedFor?, PortPool.reservedFor?, hsame]
  · rw [PortPool.reservedFor?, PortPool.reservedFor?, hempty, hnone]
    rfl

/-- Asking for any port either fails and moves no port, or reserves one that is managed and was
free. -/
theorem allocate_zero_runOn {result : Except Failure UInt16}
    (hrun : (allocate place range handle 0).runOn tree = (result, after)) :
    (∃ port pool, result = .ok port ∧ range.Contains port ∧ pool.holder? port = none ∧
        standing? place tree = some pool ∧
        standing? place after = some (pool.reserve port handle)) ∨
      (∃ failure, result = .error failure) ∧ Unmoved place tree after := by
  rw [allocate, if_pos rfl] at hrun
  rcases update_runOn hrun with ⟨port, pool, chosen, hresult, hbefore, hchoose, hafter⟩ | hfailed
  · obtain ⟨hcontains, hfree, rfl⟩ := ManagedRange.acquire_eq_ok hchoose
    exact .inl ⟨port, pool, hresult, hcontains, hfree, hbefore, hafter⟩
  · exact .inr hfailed

/-- Asking for a certain port never uses the pool, and is granted outside the managed range only. -/
theorem allocate_explicit_runOn {port : UInt16} (hport : port ≠ 0) (tree : FileTree) :
    (allocate place range handle port).runOn tree =
      (if range.Contains port then .error (.explicitPortInRange port) else .ok port, tree) := by
  rw [allocate, if_neg hport]
  split <;> rfl

/-- A release either fails and moves no port, or frees the ports of the handle and no others. -/
theorem releaseAll_runOn {result : Except Failure Unit}
    (hrun : (releaseAll place handle).runOn tree = (result, after)) :
    (∃ pool, result = .ok () ∧ standing? place tree = some pool ∧
        standing? place after = some (pool.release handle)) ∨
      (∃ failure, result = .error failure) ∧ Unmoved place tree after := by
  rcases update_runOn hrun with ⟨answer, pool, chosen, hresult, hbefore, hchoose, hafter⟩ | hfailed
  · cases hchoose
    exact .inl ⟨pool, hresult, hbefore, hafter⟩
  · exact .inr hfailed

theorem allocate_zero_reservedFor? {result : Except Failure UInt16}
    (hrun : (allocate place range handle 0).runOn tree = (result, after)) :
    (∃ port, result = .ok port ∧ range.Contains port ∧ reservedFor? place tree port = none ∧
        ∀ other, reservedFor? place after other =
          if other = port then some handle else reservedFor? place tree other) ∨
      (∃ failure, result = .error failure) ∧
        reservedFor? place after = reservedFor? place tree := by
  rcases allocate_zero_runOn hrun with
    ⟨port, pool, hresult, hcontains, hfree, hbefore, hafter⟩ | ⟨hfailed, hunmoved⟩
  · refine .inl ⟨port, hresult, hcontains, ?_, fun other => ?_⟩
    · rw [reservedFor?, hbefore, Option.bind_some, hfree]
    · rw [reservedFor?, reservedFor?, hbefore, hafter, Option.bind_some, Option.bind_some,
        holder?_reserve, hfree, Option.none_or]
  · exact .inr ⟨hfailed, hunmoved.reservedFor?⟩

theorem releaseAll_reservedFor? {result : Except Failure Unit}
    (hrun : (releaseAll place handle).runOn tree = (result, after)) :
    (result = .ok () ∧ ∀ port, reservedFor? place after port =
        (reservedFor? place tree port).filter fun holder => holder ≠ handle) ∨
      (∃ failure, result = .error failure) ∧
        reservedFor? place after = reservedFor? place tree := by
  rcases releaseAll_runOn hrun with ⟨pool, hresult, hbefore, hafter⟩ | ⟨hfailed, hunmoved⟩
  · refine .inl ⟨hresult, fun port => ?_⟩
    rw [reservedFor?, reservedFor?, hbefore, hafter, Option.bind_some, Option.bind_some,
      holder?_release]
  · exact .inr ⟨hfailed, hunmoved.reservedFor?⟩

end PortPool

end ContainerNetwork
