import ContainerNetwork.SortedMap

/-!
# Bindings of sorted maps

A sorted map is determined by its bindings, and each operation is described by the bindings of its
result.  The map of a list binds every key as the last binding of that key does.
-/

namespace ContainerNetwork.SortedMap

variable {κ α : Type} [LT κ] [LE κ] [Std.IsLinearOrder κ] [Std.LawfulOrderLT κ]

omit [LE κ] [Std.IsLinearOrder κ] [Std.LawfulOrderLT κ] in
theorem keys_ascending (map : SortedMap κ α) : map.keys.Pairwise (· < ·) :=
  List.pairwise_map.mpr map.ascending

omit [Std.IsLinearOrder κ] in
/-- No key is bound twice. -/
theorem value_unique (map : SortedMap κ α) {key : κ} {left right : α}
    (hleft : (key, left) ∈ map.entries) (hright : (key, right) ∈ map.entries) : left = right := by
  obtain ⟨entries, hascending⟩ := map
  change (key, left) ∈ entries at hleft
  change (key, right) ∈ entries at hright
  induction entries with
  | nil => exact absurd hleft List.not_mem_nil
  | cons binding rest ih =>
      rw [List.pairwise_cons] at hascending
      rcases List.mem_cons.mp hleft with hleft | hleft <;>
        rcases List.mem_cons.mp hright with hright | hright
      · exact (Prod.mk.inj (hleft.trans hright.symm)).2
      · exact absurd (hascending.1 _ hright) (by rw [← hleft]; exact Std.lt_irrefl)
      · exact absurd (hascending.1 _ hleft) (by rw [← hright]; exact Std.lt_irrefl)
      · exact ih hascending.2 hleft hright

/-- Maps with the same bindings are equal. -/
theorem ext_mem {left right : SortedMap κ α}
    (h : ∀ binding, binding ∈ left.entries ↔ binding ∈ right.entries) : left = right := by
  have hnodup (map : SortedMap κ α) : map.entries.Nodup :=
    map.ascending.imp fun {a b} (hlt : a.1 < b.1) (heq : a = b) => Std.lt_irrefl (heq ▸ hlt)
  have hperm := (List.perm_ext_iff_of_nodup (hnodup left) (hnodup right)).mpr h
  apply ext_entries
  apply hperm.eq_of_pairwise _ left.ascending right.ascending
  intro a b _ _ hab hba
  exact absurd (Std.lt_trans hab hba) Std.lt_irrefl

section Decidable

variable [DecidableEq κ]

omit [Std.IsLinearOrder κ] in
theorem get?_eq_some_iff {map : SortedMap κ α} {key : κ} {value : α} :
    map.get? key = some value ↔ (key, value) ∈ map.entries := by
  rw [get?]
  constructor
  · intro hlookup
    obtain ⟨before, after, hentries, _⟩ := List.lookup_eq_some_iff.mp hlookup
    simp [hentries]
  · intro hmem
    cases hlookup : map.entries.lookup key with
    | none =>
        have hne := List.lookup_eq_none_iff.mp hlookup _ hmem
        simp at hne
    | some other =>
        obtain ⟨before, after, hentries, _⟩ := List.lookup_eq_some_iff.mp hlookup
        have hother : (key, other) ∈ map.entries := by simp [hentries]
        rw [map.value_unique hmem hother]

omit [LE κ] [Std.IsLinearOrder κ] [Std.LawfulOrderLT κ] in
theorem get?_eq_none_iff {map : SortedMap κ α} {key : κ} :
    map.get? key = none ↔ key ∉ map.keys := by
  simp only [get?, keys, List.lookup_eq_none_iff, List.mem_map, bne_iff_ne, not_exists, not_and]
  exact ⟨fun h entry hentry heq => h entry hentry heq.symm,
    fun h entry hentry heq => h entry hentry heq.symm⟩

theorem ext_get? {left right : SortedMap κ α} (h : ∀ key, left.get? key = right.get? key) :
    left = right :=
  ext_mem fun (key, value) => by rw [← get?_eq_some_iff, ← get?_eq_some_iff, h]

omit [Std.IsLinearOrder κ] in
theorem get?_filter {map : SortedMap κ α} {keep : κ → α → Bool} {key : κ} :
    (map.filter keep).get? key = (map.get? key).filter (keep key) := by
  apply Option.ext
  intro value
  simp only [get?_eq_some_iff, filter, List.mem_filter, Option.filter_eq_some_iff]

variable [DecidableLT κ]

theorem mem_insertNew {map : SortedMap κ α} {key : κ} {value : α} {binding : κ × α} :
    binding ∈ (map.insertNew key value).entries ↔
      binding ∈ map.entries ∨ (binding = (key, value) ∧ map.get? key = none) := by
  obtain ⟨entries, hascending⟩ := map
  simp only [insertNew, get?]
  induction entries with
  | nil => simp [insertNewEntry]
  | cons head rest ih =>
      rw [List.pairwise_cons] at hascending
      rw [insertNewEntry, List.lookup_cons]
      by_cases heq : key = head.1
      · simp [heq]
      · rw [if_neg heq]
        have hbeq : (key == head.1) = false := by simpa using heq
        rw [hbeq]
        split
        · rename_i hlt
          have hrest : rest.lookup key = none := by
            rw [List.lookup_eq_none_iff]
            intro entry hentry
            have := Std.lt_trans hlt (hascending.1 entry hentry)
            simpa using fun h : key = entry.1 => Std.lt_irrefl (h ▸ this)
          simp only [hrest, List.mem_cons, and_true]
          exact or_comm
        · simp only [List.mem_cons, ih hascending.2]
          exact or_assoc.symm

theorem get?_insertNew {map : SortedMap κ α} {key other : κ} {value : α} :
    (map.insertNew key value).get? other =
      if other = key then (map.get? key).or (some value) else map.get? other := by
  apply Option.ext
  intro bound
  rw [get?_eq_some_iff, mem_insertNew, ← get?_eq_some_iff]
  split
  · rename_i heq
    subst heq
    cases map.get? other <;> simp [eq_comm]
  · rename_i hne
    simp [hne]

/-- A list of bindings that agrees with itself is listed by its map. -/
theorem mem_ofList (bindings : List (κ × α))
    (hagree : ∀ key left right, (key, left) ∈ bindings → (key, right) ∈ bindings → left = right)
    (binding : κ × α) : binding ∈ (ofList bindings).entries ↔ binding ∈ bindings := by
  induction bindings generalizing binding with
  | nil => simp [ofList, empty]
  | cons head rest ih =>
      have hrest := ih fun key left right hleft hright =>
        hagree key left right (List.mem_cons_of_mem _ hleft) (List.mem_cons_of_mem _ hright)
      change binding ∈ ((ofList rest).insertNew head.1 head.2).entries ↔ _
      rw [mem_insertNew, List.mem_cons, hrest]
      constructor
      · rintro (hmem | ⟨rfl, _⟩)
        · exact .inr hmem
        · exact .inl rfl
      · rintro (rfl | hmem)
        · cases hbound : (ofList rest).get? binding.1 with
          | none => exact .inr ⟨rfl, rfl⟩
          | some value =>
              have hvalue := (hrest _).mp (get?_eq_some_iff.mp hbound)
              have heq : binding.2 = value := hagree binding.1 binding.2 value
                List.mem_cons_self (List.mem_cons_of_mem _ hvalue)
              subst heq
              exact .inl hvalue
        · exact .inl hmem

theorem ofList_entries (map : SortedMap κ α) : ofList map.entries = map :=
  ext_mem <| mem_ofList _ fun _ _ _ hleft hright => map.value_unique hleft hright

end Decidable

/-- The last binding of `key` in a list binds it to `value`. -/
inductive LastBinding (key : κ) (value : α) : List (κ × α) → Prop
  | here {later : List (κ × α)} (hlast : key ∉ later.map Prod.fst) :
      LastBinding key value ((key, value) :: later)
  | later {binding : κ × α} {rest : List (κ × α)} (hrest : LastBinding key value rest) :
      LastBinding key value (binding :: rest)

namespace LastBinding

variable {key : κ} {value : α} {head : κ × α} {rest bindings : List (κ × α)}

omit [LT κ] [LE κ] [Std.IsLinearOrder κ] [Std.LawfulOrderLT κ]

theorem mem (hlast : LastBinding key value bindings) : (key, value) ∈ bindings := by
  induction hlast with
  | here => exact List.mem_cons_self
  | later hrest ih => exact List.mem_cons_of_mem _ ih

theorem cons_iff :
    LastBinding key value (head :: rest) ↔
      LastBinding key value rest ∨ head = (key, value) ∧ key ∉ rest.map Prod.fst := by
  constructor
  · intro hlast
    cases hlast with
    | here hlast => exact .inr ⟨rfl, hlast⟩
    | later hrest => exact .inl hrest
  · rintro (hrest | ⟨rfl, hlast⟩)
    · exact .later hrest
    · exact .here hlast

theorem exists_iff : (∃ value, LastBinding key value bindings) ↔ key ∈ bindings.map Prod.fst := by
  constructor
  · rintro ⟨value, hlast⟩
    exact List.mem_map_of_mem hlast.mem
  · intro hmem
    induction bindings with
    | nil => cases hmem
    | cons head rest ih =>
        by_cases hrest : key ∈ rest.map Prod.fst
        · obtain ⟨value, hlast⟩ := ih hrest
          exact ⟨value, .later hlast⟩
        · rw [List.map_cons, List.mem_cons, or_iff_left hrest] at hmem
          exact ⟨head.2, cons_iff.mpr (.inr ⟨by rw [hmem], hrest⟩)⟩

/-- Where the values ascend, the last binding of a key has the greatest of its values. -/
theorem iff_greatest [LE α] [Std.IsLinearOrder α]
    (hascending : bindings.Pairwise fun earlier later => earlier.2 ≤ later.2) :
    LastBinding key value bindings ↔
      (key, value) ∈ bindings ∧ ∀ other, (key, other) ∈ bindings → other ≤ value := by
  have hgreatest {bound : α} (hlast : LastBinding key bound bindings) :
      ∀ other, (key, other) ∈ bindings → other ≤ bound := by
    induction hlast with
    | @here later hlast =>
        intro other hother
        rcases List.mem_cons.mp hother with heq | hlater
        · cases heq
          exact Std.le_refl bound
        · exact absurd (List.mem_map_of_mem hlater) hlast
    | later hrest ih =>
        rw [List.pairwise_cons] at hascending
        intro other hother
        rcases List.mem_cons.mp hother with rfl | hother
        · exact hascending.1 _ hrest.mem
        · exact ih hascending.2 other hother
  constructor
  · exact fun hlast => ⟨hlast.mem, hgreatest hlast⟩
  · rintro ⟨hmem, hbound⟩
    obtain ⟨last, hlast⟩ := exists_iff.mpr (List.mem_map_of_mem (f := Prod.fst) hmem)
    have heq : last = value := Std.le_antisymm (hbound last hlast.mem) (hgreatest hlast value hmem)
    exact heq ▸ hlast

end LastBinding

/-- The map of a list binds each key as the last binding of it does. -/
theorem get?_ofList [DecidableEq κ] [DecidableLT κ] {bindings : List (κ × α)} {key : κ}
    {value : α} : (ofList bindings).get? key = some value ↔ LastBinding key value bindings := by
  induction bindings generalizing value with
  | nil =>
      constructor
      · intro hbound
        cases hbound
      · intro hlast
        cases hlast
  | cons head rest ih =>
      change ((ofList rest).insertNew head.1 head.2).get? key = some value ↔ _
      rw [get?_insertNew, LastBinding.cons_iff, ← ih]
      have hunbound : (ofList rest).get? key = none ↔ key ∉ rest.map Prod.fst := by
        simp only [← LastBinding.exists_iff, ← ih, Option.eq_none_iff_forall_ne_some, not_exists,
          ne_eq]
      split
      · rename_i heq
        subst heq
        rw [← hunbound]
        cases (ofList rest).get? head.1 with
        | none => simp [Prod.ext_iff]
        | some bound => simp
      · rename_i hne
        simp [Prod.ext_iff, Ne.symm hne]

end ContainerNetwork.SortedMap
