import ContainerNetwork.Enforcement.PolicyEngine
import ContainerNetwork.Proofs.Address.Text
import ContainerNetwork.Proofs.Json.RoundTrip

/-!
# Remote addresses as both enforcements write them

The host firewall lists ranges and the policy engine lists blocks, and for both an empty text
restricts nothing.  Read as they are enforced, both texts name the addresses of a rule's networks.
-/

namespace ContainerNetwork

/-- The addresses that a list with a mark between its pieces names to whoever enforces it, if every
piece can be read; the empty text names all. -/
def namedRemotes? (mark : String) (read : List Char → Option (Set Address)) (text : String) :
    Option (Set Address) :=
  if text = "" then some Set.univ
  else ((Pieces.cut mark text).mapM read).map fun named =>
    {address | ∃ set ∈ named, address ∈ set}

/-- The addresses of the networks of a rule; no networks are all addresses. -/
def AddressRange.scope (networks : List AddressRange) : Set Address :=
  {address | networks = [] ∨ ∃ range ∈ networks, range.Contains address}

/-- A list of items that are read one by one is read as all that they name. -/
theorem namedRemotes?_join {α : Type} {read : List Char → Option (Set Address)}
    {write : α → String} {named : α → Set Address} {mark : String} {first : Char}
    {suffix : List Char} (hmark : mark.toList = first :: suffix)
    (hread : ∀ item, read (write item).toList = some (named item))
    (hfirst : ∀ item, first ∉ (write item).toList) (hwrite : ∀ item, (write item).toList ≠ [])
    {items : List α} (hne : items ≠ []) :
    namedRemotes? mark read (Pieces.join mark (items.map write)) =
      some {address | ∃ item ∈ items, address ∈ named item} := by
  have htext : Pieces.join mark (items.map write) ≠ "" :=
    mt (Pieces.join_map_eq_empty_iff hwrite).mp hne
  rw [namedRemotes?, if_neg htext, Pieces.cut_join hmark (mt List.map_eq_nil_iff.mp hne)
    (List.forall_mem_map.mpr fun item _ => hfirst item), List.map_map, Function.comp_def,
    mapM_map_of_read hread items, Option.map_some]
  apply congrArg some
  ext address
  constructor
  · rintro ⟨set, hset, haddress⟩
    obtain ⟨item, hitem, rfl⟩ := List.mem_map.mp hset
    exact ⟨item, hitem, haddress⟩
  · rintro ⟨item, hitem, haddress⟩
    exact ⟨named item, List.mem_map_of_mem hitem, haddress⟩

/-! ## Ranges -/

namespace AddressRange

theorem not_mem_text (range : AddressRange) {c : Char} (hdigit : c.isDigit = false)
    (hdot : c ≠ '.') (hdash : c ∉ "-".toList) : c ∉ range.text.toList :=
  Pieces.not_mem_pair (range.first.not_mem_text hdigit hdot) hdash
    (range.last.not_mem_text hdigit hdot)

theorem comma_not_mem_text (range : AddressRange) : ',' ∉ range.text.toList :=
  range.not_mem_text (by decide) (by decide) (by decide)

theorem text_ne_nil (range : AddressRange) : range.text.toList ≠ [] := by
  simp [text]

/-- The text of the host firewall names the networks of the rule, reversed ranges as nothing. -/
theorem namedRemotes?_listText (networks : List AddressRange) :
    namedRemotes? "," named? (listText networks) = some (scope networks) := by
  by_cases hnone : networks = []
  · subst hnone
    apply congrArg some
    ext address
    exact ⟨fun _ => .inl rfl, fun _ => trivial⟩
  · rw [listText, namedRemotes?_join rfl named?_text comma_not_mem_text text_ne_nil hnone]
    apply congrArg some
    ext address
    exact ⟨.inr, fun hscope => hscope.resolve_left hnone⟩

end AddressRange

/-! ## Blocks -/

namespace Block

theorem not_mem_text (block : Block) {c : Char} (hdigit : c.isDigit = false) (hdot : c ≠ '.')
    (hslash : c ∉ "/".toList) : c ∉ block.text.toList :=
  Pieces.not_mem_pair (block.first.not_mem_text hdigit hdot) hslash (Decimal.not_mem_text hdigit)

theorem comma_not_mem_text (block : Block) : ',' ∉ block.text.toList :=
  block.not_mem_text (by decide) (by decide) (by decide)

theorem text_ne_nil (block : Block) : block.text.toList ≠ [] := by
  simp [text]

/-- Only the block of all addresses is written as such. -/
theorem length_of_text_eq_all {block : Block} (htext : block.text = "0.0.0.0/0") :
    block.length = 0 := by
  have hsplit := block.split_text
  have hall : Pieces.split '/' "0.0.0.0/0".toList = ["0.0.0.0".toList, ['0']] := by decide
  rw [htext, hall] at hsplit
  have hlength : (Decimal.text block.length).toList = ['0'] :=
    (List.cons.inj (List.cons.inj hsplit).2).1.symm
  have hread := Decimal.read?_text block.length
  rw [hlength] at hread
  exact (Option.some.inj hread).symm

end Block

namespace PolicyEngine

theorem any_coversAll {networks : List AddressRange} :
    networks.any AddressRange.coversAll = true ↔ AddressRange.all ∈ networks := by
  simp [List.any_eq_true, AddressRange.coversAll]

/-- The blocks of a list of ranges contain what the ranges contain. -/
theorem exists_mem_blocks_iff {networks : List AddressRange} {address : Address} :
    (∃ block ∈ networks.flatMap AddressRange.blocks, block.Contains address) ↔
      ∃ range ∈ networks, range.Contains address := by
  constructor
  · rintro ⟨block, hblock, hcontains⟩
    obtain ⟨range, hrange, hblock⟩ := List.mem_flatMap.mp hblock
    exact ⟨range, hrange, AddressRange.exists_mem_blocks_iff.mp ⟨block, hblock, hcontains⟩⟩
  · rintro ⟨range, hrange, hcontains⟩
    obtain ⟨block, hblock, hcontains⟩ := AddressRange.exists_mem_blocks_iff.mpr hcontains
    exact ⟨block, List.mem_flatMap.mpr ⟨range, hrange, hblock⟩, hcontains⟩

/-- The text of the policy engine names the networks of the rule, unless all of its ranges are
reversed. -/
theorem namedRemotes?_remoteAddresses {networks : List AddressRange}
    (hordered : networks = [] ∨ ∃ range ∈ networks, range.Ordered) :
    namedRemotes? ", " Block.named? (remoteAddresses networks) =
      some (AddressRange.scope networks) := by
  have hunrestricted (hscope : ∀ address, address ∈ AddressRange.scope networks) :
      namedRemotes? ", " Block.named? "" = some (AddressRange.scope networks) :=
    congrArg some (Set.ext fun address => ⟨fun _ => hscope address, fun _ => trivial⟩)
  rw [remoteAddresses]
  split
  · rename_i hall
    apply hunrestricted
    intro address
    exact .inr ⟨.all, any_coversAll.mp hall, AddressRange.all_contains address⟩
  · rcases hordered with rfl | ⟨range, hrange, hordered⟩
    · exact hunrestricted fun _ => .inl rfl
    · have hblocks : networks.flatMap AddressRange.blocks ≠ [] := by
        intro hnil
        have hnone := List.flatMap_eq_nil_iff.mp hnil range hrange
        exact AddressRange.blocks_eq_nil_iff.mp hnone hordered
      rw [namedRemotes?_join rfl Block.named?_text Block.comma_not_mem_text Block.text_ne_nil
        hblocks]
      apply congrArg some
      ext address
      apply exists_mem_blocks_iff.trans
      exact ⟨.inr, fun hscope => hscope.resolve_left (List.ne_nil_of_mem hrange)⟩

/-- Where all ranges are reversed, the text restricts nothing. -/
theorem remoteAddresses_of_reversed {networks : List AddressRange}
    (hreversed : ∀ range ∈ networks, ¬range.Ordered) : remoteAddresses networks = "" := by
  have hblocks : networks.flatMap AddressRange.blocks = [] :=
    List.flatMap_eq_nil_iff.mpr fun range hrange =>
      AddressRange.blocks_eq_nil_iff.mpr (hreversed range hrange)
  rw [remoteAddresses, hblocks]
  split <;> rfl

/-- The text confines to the networks if one of them is not reversed, and only then. -/
theorem confined_iff (networks : List AddressRange) :
    ∃ addresses, namedRemotes? ", " Block.named? (remoteAddresses networks) = some addresses ∧
      ((∀ address ∈ addresses, ∃ range ∈ networks, range.Contains address) ↔
        ∃ range ∈ networks, range.Ordered) := by
  by_cases hordered : ∃ range ∈ networks, range.Ordered
  · refine ⟨_, namedRemotes?_remoteAddresses (.inr hordered), fun _ => hordered, ?_⟩
    rintro ⟨range, hrange, _⟩ address hscope
    exact hscope.resolve_left (List.ne_nil_of_mem hrange)
  · have hreversed : ∀ range ∈ networks, ¬range.Ordered :=
      fun range hrange hsorted => hordered ⟨range, hrange, hsorted⟩
    refine ⟨Set.univ, by rw [remoteAddresses_of_reversed hreversed]; rfl, fun hconfined => ?_,
      fun hsome => absurd hsome hordered⟩
    obtain ⟨range, hrange, hcontains⟩ := hconfined .unspecified trivial
    exact ⟨range, hrange, hcontains.ordered⟩

/-- The block of all addresses is never written. -/
theorem all_not_mem_remoteAddresses (networks : List AddressRange) :
    "0.0.0.0/0".toList ∉ Pieces.cut ", " (remoteAddresses networks) := by
  rw [remoteAddresses]
  split
  · decide
  · rename_i hpart
    by_cases hnone : networks.flatMap AddressRange.blocks = []
    · rw [hnone]
      decide
    · rw [Pieces.cut_join rfl (mt List.map_eq_nil_iff.mp hnone)
        (List.forall_mem_map.mpr fun block _ => block.comma_not_mem_text)]
      intro hmem
      obtain ⟨text, htext, heq⟩ := List.mem_map.mp hmem
      obtain ⟨block, hblock, rfl⟩ := List.mem_map.mp htext
      obtain ⟨range, hrange, hblock⟩ := List.mem_flatMap.mp hblock
      refine Block.length_ne_zero (fun hall => hpart (any_coversAll.mpr ?_)) block hblock
        (Block.length_of_text_eq_all (String.toList_inj.mp heq))
      have hrangeAll : range = .all := by
        have hfirst : range.first = .unspecified := Address.ext hall.1
        rw [AddressRange.all, ← hfirst, ← hall.2]
      exact hrangeAll ▸ hrange

end PolicyEngine

end ContainerNetwork
