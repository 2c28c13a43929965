/-!
# Maps listed in ascending key order

A `SortedMap` keeps its bindings in one list whose keys strictly ascend.  Listing a map therefore
needs no sorting, no key is bound twice, and two maps with the same bindings are equal.
-/

namespace ContainerNetwork

structure SortedMap (κ α : Type) [LT κ] where
  entries : List (κ × α)
  ascending : entries.Pairwise fun left right => left.1 < right.1

namespace SortedMap

variable {κ α : Type} [LT κ]

@[ext]
theorem ext_entries {left right : SortedMap κ α} (h : left.entries = right.entries) :
    left = right := by
  cases left
  cases right
  simp_all

instance [DecidableEq κ] [DecidableEq α] : DecidableEq (SortedMap κ α) := fun left right =>
  decidable_of_iff (left.entries = right.entries) ⟨ext_entries, fun h => h ▸ rfl⟩

def empty : SortedMap κ α := ⟨[], .nil⟩

instance : Inhabited (SortedMap κ α) := ⟨empty⟩

def keys (map : SortedMap κ α) : List κ := map.entries.map Prod.fst

def get? [DecidableEq κ] (map : SortedMap κ α) (key : κ) : Option α := map.entries.lookup key

/-- The bindings that satisfy `keep`. -/
def filter (keep : κ → α → Bool) (map : SortedMap κ α) : SortedMap κ α :=
  ⟨map.entries.filter fun binding => keep binding.1 binding.2, map.ascending.filter _⟩

/-- The same keys with other values. -/
def mapValues {β : Type} (f : κ → α → β) (map : SortedMap κ α) : SortedMap κ β :=
  ⟨map.entries.map fun binding => (binding.1, f binding.1 binding.2),
    List.pairwise_map.mpr map.ascending⟩

/-- An ascending list of bindings with `key` bound to `value`, unless it bound `key` before. -/
def insertNewEntry [DecidableLT κ] [DecidableEq κ] (key : κ) (value : α) :
    List (κ × α) → List (κ × α)
  | [] => [(key, value)]
  | binding :: rest =>
      if key = binding.1 then binding :: rest
      else if key < binding.1 then (key, value) :: binding :: rest
      else binding :: insertNewEntry key value rest

theorem fst_of_mem_insertNewEntry [DecidableLT κ] [DecidableEq κ] {key : κ} {value : α}
    {entries : List (κ × α)} {binding : κ × α}
    (h : binding ∈ insertNewEntry key value entries) :
    binding.1 = key ∨ binding ∈ entries := by
  induction entries with
  | nil => simp_all [insertNewEntry]
  | cons head rest ih =>
      rw [insertNewEntry] at h
      split at h
      · exact .inr h
      · split at h
        · rcases List.mem_cons.mp h with rfl | h
          · exact .inl rfl
          · exact .inr h
        · rcases List.mem_cons.mp h with rfl | h
          · exact .inr List.mem_cons_self
          · exact (ih h).imp id (List.mem_cons_of_mem _)

section Ordered

variable [LE κ] [Std.IsLinearOrder κ] [Std.LawfulOrderLT κ] [DecidableLT κ] [DecidableEq κ]

theorem insertNewEntry_ascending (key : κ) (value : α) {entries : List (κ × α)}
    (h : entries.Pairwise fun left right => left.1 < right.1) :
    (insertNewEntry key value entries).Pairwise fun left right => left.1 < right.1 := by
  induction entries with
  | nil => simp [insertNewEntry]
  | cons head rest ih =>
      rw [List.pairwise_cons] at h
      rw [insertNewEntry]
      split
      · exact List.pairwise_cons.mpr h
      · rename_i hne
        split
        · rename_i hlt
          refine List.pairwise_cons.mpr ⟨fun binding hmem => ?_, List.pairwise_cons.mpr h⟩
          rcases List.mem_cons.mp hmem with rfl | hmem
          · exact hlt
          · exact Std.lt_trans hlt (h.1 binding hmem)
        · rename_i hnlt
          refine List.pairwise_cons.mpr ⟨fun binding hmem => ?_, ih h.2⟩
          rcases fst_of_mem_insertNewEntry hmem with heq | hmem
          · grind
          · exact h.1 binding hmem

/-- Binds `key` to `value` unless `key` is bound already. -/
def insertNew (key : κ) (value : α) (map : SortedMap κ α) : SortedMap κ α :=
  ⟨insertNewEntry key value map.entries, insertNewEntry_ascending key value map.ascending⟩

/-- Binds `key` to `value`, replacing what `key` was bound to. -/
def insert (key : κ) (value : α) (map : SortedMap κ α) : SortedMap κ α :=
  (map.filter fun bound _ => bound ≠ key).insertNew key value

/-- The map of a list of bindings; of two bindings of one key the later counts. -/
def ofList (bindings : List (κ × α)) : SortedMap κ α :=
  bindings.foldr (fun binding map => map.insertNew binding.1 binding.2) empty

end Ordered

end SortedMap

end ContainerNetwork
