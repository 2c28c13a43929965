import ContainerNetwork.Proofs.PortPool.Refinement

/-!
# Running out of managed ports

The managed ports that are free, in ascending order, tell how every further request for any port
ends: they are given out one after the other, and then there are no more.  How many of them there
are is a matter of counting the managed ports and those of them that are reserved.
-/

namespace ContainerNetwork

namespace ManagedRange

variable {range : ManagedRange} {pool chosen : PortPool} {port other : UInt16} {handle : String}

/-! ## The managed ports -/

/-- How many ports are managed: the capacity, as far as the port space reaches. -/
def size (range : ManagedRange) : Nat :=
  min range.capacity.toNat (UInt16.size - range.start.toNat)

/-- The managed ports in ascending order. -/
def ports (range : ManagedRange) : List UInt16 :=
  (List.range' range.start.toNat range.size).map Nat.toUInt16

/-- The managed ports that nobody holds, in ascending order. -/
def free (range : ManagedRange) (pool : PortPool) : List UInt16 :=
  range.ports.filter fun port => pool.holder? port = none

/-- The managed ports that somebody holds, in ascending order. -/
def reserved (range : ManagedRange) (pool : PortPool) : List UInt16 :=
  pool.ports.filter fun port => range.Contains port

theorem length_ports (range : ManagedRange) : range.ports.length = range.size := by
  rw [ports, List.length_map, List.length_range']

theorem mem_ports : port ∈ range.ports ↔ range.Contains port := by
  have hspace := port.toNat_lt_size
  simp only [ports, List.mem_map, List.mem_range'_1, Contains, size]
  constructor
  · rintro ⟨number, hnumber, rfl⟩
    have htoNat : number.toUInt16.toNat = number := UInt16.toNat_ofNat_of_lt' (by omega)
    omega
  · intro hcontains
    exact ⟨port.toNat, by omega, UInt16.ofNat_toNat⟩

theorem ports_ascending (range : ManagedRange) : range.ports.Pairwise (· < ·) := by
  have hnumbers : (List.range' range.start.toNat range.size).Pairwise (· < ·) :=
    List.pairwise_lt_range'
  refine List.pairwise_map.mpr (hnumbers.imp_of_mem fun {first second} hfirst hsecond hlt => ?_)
  rw [List.mem_range'_1, size] at hfirst hsecond
  rw [UInt16.lt_iff_toNat_lt, UInt16.toNat_ofNat_of_lt' (by omega),
    UInt16.toNat_ofNat_of_lt' (by omega)]
  exact hlt

theorem mem_free : port ∈ range.free pool ↔ range.Contains port ∧ pool.holder? port = none := by
  rw [free, List.mem_filter, mem_ports, decide_eq_true_iff]

theorem free_ascending (range : ManagedRange) (pool : PortPool) :
    (range.free pool).Pairwise (· < ·) :=
  range.ports_ascending.filter _

/-- Every managed port is either free or reserved. -/
theorem length_free_add_length_reserved (range : ManagedRange) (pool : PortPool) :
    (range.free pool).length + (range.reserved pool).length = range.size := by
  have hnodup {ports : List UInt16} (hascending : ports.Pairwise (· < ·)) : ports.Nodup :=
    hascending.imp UInt16.ne_of_lt
  have hheld : (range.ports.filter fun port => !decide (pool.holder? port = none)).Perm
      (range.reserved pool) := by
    apply (List.perm_ext_iff_of_nodup (hnodup (range.ports_ascending.filter _))
      (hnodup (pool.holders.keys_ascending.filter _))).mpr
    intro port
    rw [List.mem_filter, List.mem_filter, mem_ports, Bool.not_eq_true', decide_eq_false_iff_not,
      decide_eq_true_iff, and_comm]
    exact and_congr_left' PortPool.mem_ports.symm
  rw [← hheld.length_eq, ← range.length_ports, free]
  exact (List.length_eq_length_filter_add _).symm

/-! ## The lowest free port -/

/-- Every number below the least free one is taken. -/
theorem mem_of_lt_leastFree {taken : List Nat} {start number : Nat} (hstart : start ≤ number)
    (hlt : number < leastFree start taken) : number ∈ taken := by
  induction taken generalizing start with
  | nil =>
      rw [leastFree] at hlt
      omega
  | cons head rest ih =>
      rw [leastFree] at hlt
      split at hlt
      · exact List.mem_cons_of_mem _ (ih hstart hlt)
      · split at hlt
        · rename_i hhead
          rcases Nat.eq_or_lt_of_le hstart with rfl | hbeyond
          · rw [hhead]
            exact List.mem_cons_self
          · exact List.mem_cons_of_mem _ (ih hbeyond hlt)
        · omega

/-- Below the least free number, every managed port is held. -/
theorem not_free_of_lt_leastFree (hcontains : range.Contains port)
    (hlt : port.toNat < leastFree range.start.toNat (pool.ports.map UInt16.toNat)) :
    pool.holder? port ≠ none := by
  obtain ⟨held, hheld, hsame⟩ := List.mem_map.mp (mem_of_lt_leastFree hcontains.1 hlt)
  exact PortPool.mem_ports.mp (UInt16.toNat_inj.mp hsame ▸ hheld)

/-- The lowest free port is no higher than any managed port that nobody holds. -/
theorem le_of_lowestFree? (hlowest : range.lowestFree? pool = some port)
    (hother : other ∈ range.free pool) : port ≤ other := by
  obtain ⟨hcontains, hnone⟩ := mem_free.mp hother
  rw [UInt16.le_iff_toNat_le, (toNat_of_lowestFree? hlowest).1]
  exact Nat.not_lt.mp fun hlt => not_free_of_lt_leastFree hcontains hlt hnone

/-- The port that is given out is no higher than any other that could have been. -/
theorem le_of_acquire (hacquire : range.acquire pool handle = .ok (port, chosen))
    (hother : other ∈ range.free pool) : port ≤ other := by
  rw [acquire] at hacquire
  cases hlowest : range.lowestFree? pool with
  | none =>
      rw [hlowest] at hacquire
      cases hacquire
  | some found =>
      rw [hlowest] at hacquire
      obtain rfl : found = port := (Prod.mk.inj (Except.ok.inj hacquire)).1
      exact le_of_lowestFree? hlowest hother

/-- Where there is no lowest free port, no managed port is free. -/
theorem free_eq_nil (hlowest : range.lowestFree? pool = none) : range.free pool = [] := by
  rw [List.eq_nil_iff_forall_not_mem]
  intro port hport
  obtain ⟨hcontains, hnone⟩ := mem_free.mp hport
  refine not_free_of_lt_leastFree hcontains ?_ hnone
  simp only [lowestFree?] at hlowest
  split at hlowest
  case isTrue => cases hlowest
  case isFalse hstop =>
    have hspace := port.toNat_lt_size
    have hmanaged := hcontains.2
    rw [stop] at hstop
    omega

/-- The port that is given out is the first of the free ones. -/
theorem lowestFree?_eq_head? (range : ManagedRange) (pool : PortPool) :
    range.lowestFree? pool = (range.free pool).head? := by
  cases hlowest : range.lowestFree? pool with
  | none => rw [free_eq_nil hlowest, List.head?_nil]
  | some found =>
      have hfound := mem_free.mpr (lowestFree?_eq_some hlowest)
      have hascending := range.free_ascending pool
      cases hfree : range.free pool with
      | nil =>
          rw [hfree] at hfound
          cases hfound
      | cons first rest =>
          have hle : found ≤ first := le_of_lowestFree? hlowest (hfree ▸ List.mem_cons_self)
          rw [hfree] at hfound hascending
          rcases List.mem_cons.mp hfound with rfl | hlater
          · rfl
          · exact absurd (List.rel_of_pairwise_cons hascending hlater) (UInt16.not_lt.mpr hle)

theorem acquire_eq (range : ManagedRange) (pool : PortPool) (handle : String) :
    range.acquire pool handle =
      match range.free pool with
      | [] => .error .portPoolExhausted
      | port :: _ => .ok (port, pool.reserve port handle) := by
  rw [acquire, lowestFree?_eq_head?]
  cases range.free pool with
  | nil => rfl
  | cons port rest => rfl

/-- A port that is reserved is no longer free, and all others are as before. -/
theorem free_reserve {rest : List UInt16} (hfree : range.free pool = port :: rest)
    (handle : String) : range.free (pool.reserve port handle) = rest := by
  have hascending := range.free_ascending pool
  rw [hfree] at hascending
  have hport : pool.holder? port = none :=
    (mem_free.mp (hfree ▸ List.mem_cons_self : port ∈ range.free pool)).2
  calc
    range.free (pool.reserve port handle) =
        (range.free pool).filter fun other => other ≠ port := by
      rw [free, free, List.filter_filter]
      apply List.filter_congr
      intro other _
      rw [PortPool.holder?_reserve, hport, Option.none_or, ← Bool.decide_and, decide_eq_decide]
      by_cases hother : other = port
      · simp [hother]
      · simp [hother]
    _ = rest := by
      rw [hfree, List.filter_cons_of_neg (by simp), List.filter_eq_self]
      intro other hother
      have hlt := List.rel_of_pairwise_cons hascending hother
      exact decide_eq_true (UInt16.ne_of_lt hlt).symm

/-- Reserving the lowest free ports leaves any number of the managed ports from the end. -/
theorem exists_pool_free (range : ManagedRange) (count : Nat) :
    ∃ pool, range.free pool = range.ports.drop count := by
  induction count with
  | zero =>
      refine ⟨.empty, ?_⟩
      rw [List.drop_zero, free, List.filter_eq_self]
      exact fun _ _ => rfl
  | succ count ih =>
      obtain ⟨pool, hpool⟩ := ih
      rw [← List.tail_drop, ← hpool]
      cases hfree : range.free pool with
      | nil => exact ⟨pool, hfree⟩
      | cons port rest => exact ⟨pool.reserve port "", free_reserve hfree ""⟩

/-- Every managed port is given out by some pool, and no other port is. -/
theorem exists_acquire_iff :
    (∃ pool chosen, range.acquire pool handle = .ok (port, chosen)) ↔ range.Contains port := by
  constructor
  · rintro ⟨pool, chosen, hacquire⟩
    exact (acquire_eq_ok hacquire).1
  · intro hcontains
    obtain ⟨before, after, hports⟩ := List.append_of_mem (mem_ports.mpr hcontains)
    obtain ⟨pool, hfree⟩ := range.exists_pool_free before.length
    rw [hports, List.drop_left] at hfree
    refine ⟨pool, pool.reserve port handle, ?_⟩
    rw [acquire_eq, hfree]

/-- A port is given out as long as not all managed ports are reserved. -/
theorem isOk_acquire_iff :
    Except.isOk (range.acquire pool handle) ↔ (range.reserved pool).length < range.size := by
  have hcount := range.length_free_add_length_reserved pool
  rw [acquire_eq]
  cases hfree : range.free pool with
  | nil =>
      rw [hfree, List.length_nil] at hcount
      simp only [Except.isOk, Except.toBool, Bool.false_eq_true, false_iff]
      omega
  | cons port rest =>
      rw [hfree, List.length_cons] at hcount
      simp only [Except.isOk, Except.toBool, true_iff]
      omega

/-- No port is given out only where none is free. -/
theorem acquire_eq_error {failure : Failure}
    (hacquire : range.acquire pool handle = .error failure) :
    failure = .portPoolExhausted ∧ range.free pool = [] := by
  rw [acquire_eq] at hacquire
  cases hfree : range.free pool with
  | nil =>
      rw [hfree] at hacquire
      cases hacquire
      exact ⟨rfl, rfl⟩
  | cons port rest =>
      rw [hfree] at hacquire
      cases hacquire

end ManagedRange

namespace PortPool

variable {range : ManagedRange} {pool : PortPool}

/-! ## Running out -/

/-- Requests for any port, one for each of the handles. -/
def requests (range : ManagedRange) (handles : List String) : List (ManagedRange × Use) :=
  handles.map fun handle => (range, .allocate handle 0)

theorem applyTo_allocate (range : ManagedRange) (pool : PortPool) (handle : String) :
    Use.applyTo range (.allocate handle 0) pool =
      match range.free pool with
      | [] => (.error .portPoolExhausted, pool)
      | port :: _ => (.ok (some port), pool.reserve port handle) := by
  rw [Use.applyTo, Use.decide, if_pos rfl, ManagedRange.acquire_eq]
  cases range.free pool with
  | nil => rfl
  | cons port rest => rfl

/-- The free managed ports are given out one after the other, and then no more. -/
theorem answers_requests (range : ManagedRange) (pool : PortPool) (handles : List String) :
    (answers pool (requests range handles)).map Prod.fst =
      ((range.free pool).take handles.length).map (fun port => .ok (some port)) ++
        List.replicate (handles.length - (range.free pool).length) (.error .portPoolExhausted) := by
  induction handles generalizing pool with
  | nil => simp [requests, answers]
  | cons handle rest ih =>
      have hanswers : answers pool (requests range (handle :: rest)) =
          Use.applyTo range (.allocate handle 0) pool ::
            answers (Use.applyTo range (.allocate handle 0) pool).2 (requests range rest) := rfl
      rw [hanswers, List.map_cons, ih, applyTo_allocate]
      cases hfree : range.free pool with
      | nil => simp [hfree, List.replicate_succ]
      | cons port others =>
          simp only [ManagedRange.free_reserve hfree handle, List.length_cons, List.take_succ_cons,
            List.map_cons, List.cons_append, Nat.add_sub_add_right]

/-- What a managed range owes to the handles that ask for its ports. -/
structure Rationed (range : ManagedRange) : Prop where
  /-- The ports that may be given out are the managed ones, whoever asks. -/
  managed : ∀ handle port,
    (∃ pool chosen, range.acquire pool handle = .ok (port, chosen)) ↔ range.Contains port
  /-- These ports, and no others, are refused to those who ask for a certain one. -/
  refused : ∀ place handle port tree, port ≠ 0 → (allocate place range handle port).runOn tree =
    (if range.Contains port then .error (.explicitPortInRange port) else .ok port, tree)
  /-- A request for any port is met while fewer ports are reserved than are managed. -/
  met : ∀ pool handle, Except.isOk (range.acquire pool handle) ↔
    (range.reserved pool).length < min range.capacity.toNat (UInt16.size - range.start.toNat)
  /-- It is met with the lowest managed port that is free, and moves no other port. -/
  lowest : ∀ pool handle port chosen, range.acquire pool handle = .ok (port, chosen) →
    range.Contains port ∧ pool.holder? port = none ∧
      (∀ other, range.Contains other → pool.holder? other = none → port ≤ other) ∧
      ∀ other, chosen.holder? other = if other = port then some handle else pool.holder? other
  /-- A request that is not met leaves the pool as it is. -/
  unmet : ∀ pool handle failure, range.acquire pool handle = .error failure →
    failure = .portPoolExhausted ∧
      Use.applyTo range (.allocate handle 0) pool = (.error failure, pool)
  /-- As many requests in a row are met as there are free managed ports, and none after them. -/
  exhausted : ∀ pool handles, (answers pool (requests range handles)).map Prod.fst =
    ((range.free pool).take handles.length).map (fun port => .ok (some port)) ++
      List.replicate (handles.length - (range.free pool).length) (.error .portPoolExhausted)
  /-- They are met with ever higher ports. -/
  ascending : ∀ pool, (range.free pool).Pairwise (· < ·)

/-- Every managed range gives out its free ports from the lowest one on, until none is left. -/
theorem managed_ports_rationed (range : ManagedRange) : Rationed range where
  managed handle port := ManagedRange.exists_acquire_iff
  refused place handle port tree hport := allocate_explicit_runOn hport tree
  met pool handle := ManagedRange.isOk_acquire_iff
  lowest pool handle port chosen hacquire := by
    obtain ⟨hcontains, hport, rfl⟩ := ManagedRange.acquire_eq_ok hacquire
    refine ⟨hcontains, hport, fun other hother hnone => ?_, fun other => ?_⟩
    · exact ManagedRange.le_of_acquire hacquire (ManagedRange.mem_free.mpr ⟨hother, hnone⟩)
    · rw [holder?_reserve, hport, Option.none_or]
  unmet pool handle failure hacquire := by
    obtain ⟨rfl, hnone⟩ := ManagedRange.acquire_eq_error hacquire
    refine ⟨rfl, ?_⟩
    rw [applyTo_allocate, hnone]
  exhausted pool handles := answers_requests range pool handles
  ascending pool := range.free_ascending pool

/-- At the top of the port space, fewer ports are managed than the capacity says. -/
example : (⟨65534, 10⟩ : ManagedRange).ports = [65534, 65535] := by decide

end PortPool

end ContainerNetwork
