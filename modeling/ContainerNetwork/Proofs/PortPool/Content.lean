import ContainerNetwork.PortPool.File
import ContainerNetwork.Proofs.Json.Members
import ContainerNetwork.Proofs.Json.ReadText

/-!
# What the pool file holds

A pool is written grouped by holder and read back port by port.  Grouping and ungrouping lose
nothing, whatever the handles are, so the content written for a pool is the content of that pool.
-/

namespace ContainerNetwork.PortPool

theorem mem_portsHeldBy {pool : PortPool} {port : UInt16} {handle : String} :
    port ∈ pool.portsHeldBy handle ↔ (port, handle) ∈ pool.holders.entries := by
  simp [portsHeldBy, SortedMap.keys, SortedMap.filter]

theorem mem_groups {pool : PortPool} {handle : String} {ports : List UInt16} :
    (handle, ports) ∈ pool.groups.entries ↔
      (∃ port, (port, handle) ∈ pool.holders.entries) ∧ ports = pool.portsHeldBy handle := by
  have hhandles := SortedMap.mem_ofList
    (pool.holders.entries.map fun entry => (entry.2, ())) (fun _ _ _ _ _ => rfl)
  simp only [groups, SortedMap.mapValues, List.mem_map, hhandles]
  constructor
  · rintro ⟨entry, ⟨⟨port, holder⟩, hmem, rfl⟩, heq⟩
    obtain ⟨rfl, rfl⟩ := Prod.mk.inj heq
    exact ⟨⟨port, hmem⟩, rfl⟩
  · rintro ⟨⟨port, hmem⟩, rfl⟩
    exact ⟨(handle, ()), ⟨(port, handle), hmem, rfl⟩, rfl⟩

/-- Grouping the ports by holder and ungrouping them gives the pool again. -/
theorem ofGroups_groups (pool : PortPool) : ofGroups pool.groups = pool := by
  have hlisted (binding : UInt16 × String) :
      binding ∈ pool.groups.entries.flatMap (fun group => group.2.map (·, group.1)) ↔
        binding ∈ pool.holders.entries := by
    obtain ⟨port, handle⟩ := binding
    simp only [List.mem_flatMap, List.mem_map]
    constructor
    · rintro ⟨⟨holder, ports⟩, hgroup, listed, hlisted, heq⟩
      obtain ⟨rfl, rfl⟩ := Prod.mk.inj heq
      exact mem_portsHeldBy.mp ((mem_groups.mp hgroup).2 ▸ hlisted)
    · intro hmem
      exact ⟨(handle, pool.portsHeldBy handle), mem_groups.mpr ⟨⟨port, hmem⟩, rfl⟩, port,
        mem_portsHeldBy.mpr hmem, rfl⟩
  have hholders : (ofGroups pool.groups).holders = pool.holders := by
    apply SortedMap.ext_mem
    intro binding
    refine (SortedMap.mem_ofList _ (fun key left right hleft hright => ?_) binding).trans
      (hlisted binding)
    exact pool.holders.value_unique ((hlisted _).mp hleft) ((hlisted _).mp hright)
  exact congrArg PortPool.mk hholders

instance : LawfulWire PortPool := by
  refine .ofRecord (fun _ => rfl) (fun _ => rfl) (by decide) (fun pool => ?_) fun pool => ?_
  · exact Record.Spells.member "acquired_ports" pool.groups
  · simp [Record.optional_eq, ofGroups_groups]

/-- A file whose text spells a value holds the pool that the value is. -/
theorem ofContent?_of_parse? {text : String} {json : Json} (hparse : Json.parse? text = some json) :
    ofContent? text.toUTF8 = ofJson? json := by
  have htext : String.fromUTF8? text.toUTF8 = some text := dif_pos text.isValidUTF8
  rw [ofContent?, htext, Option.bind_eq_bind, Option.bind_some, Json.isBlank_eq_false hparse]
  exact Wire.read?_of_parse? hparse

/-- The content that is written for a pool is read as that pool. -/
theorem ofContent?_content (pool : PortPool) : ofContent? pool.content = some pool := by
  have hparse : Json.parse? (Wire.text pool) = some (toJson pool) :=
    Json.parse?_render (LawfulWire.toJson_isPlain pool)
  exact (ofContent?_of_parse? hparse).trans (LawfulWire.ofJson?_toJson pool)

end ContainerNetwork.PortPool
