import ContainerNetwork.Proofs.Address.Text
import ContainerNetwork.Proofs.Address.Words
import Mathlib.Data.List.Chain

/-!
# Ranges are cut exactly

The blocks of a range follow one another without a gap from its first address to its last, and
their texts name them.  On words the same texts come out without an overflow, also where the range
ends at the last address of all.
-/

namespace ContainerNetwork

namespace Block

/-- No block reaches past the addresses. -/
theorem bound_le (block : Block) : block.first.value + width block.length ≤ UInt32.size := by
  have hall : width block.length ∣ UInt32.size := width_dvd (Nat.zero_le block.length)
  have hfirst := Nat.dvd_of_mod_eq_zero block.aligned
  have hlt := block.first.value_lt
  have hrest := Nat.le_of_dvd (Nat.sub_pos_of_lt hlt) (Nat.dvd_sub hall hfirst)
  omega

def last (block : Block) : Address where
  value := block.first.value + (width block.length - 1)
  value_lt := by
    have hpos := width_pos block.length
    have hbound := block.bound_le
    omega

theorem last_succ (block : Block) :
    block.last.value + 1 = block.first.value + width block.length := by
  have hpos := width_pos block.length
  change block.first.value + (width block.length - 1) + 1 = _
  omega

theorem first_le_last (block : Block) : block.first.value ≤ block.last.value :=
  Nat.le_add_right _ _

/-- A block contains the addresses from its first to its last. -/
theorem contains_iff_between {block : Block} {address : Address} :
    block.Contains address ↔
      block.first.value ≤ address.value ∧ address.value ≤ block.last.value := by
  rw [contains_iff, ← last_succ, Nat.lt_succ_iff]

theorem contains_first (block : Block) : block.Contains block.first := rfl

theorem contains_last (block : Block) : block.Contains block.last :=
  contains_iff_between.mpr ⟨block.first_le_last, Nat.le_refl _⟩

/-- The block that a text names: an address, a slash and a length, where the address has no bits
beyond the length. -/
def ofText? (text : String) : Option Block :=
  match Pieces.split '/' text.toList with
  | [first, length] => do
      let first ← Address.ofText? (String.ofList first)
      let length ← Decimal.read? length
      if h : length ≤ 32 ∧ first.value % width length = 0 then
        some { first, length, length_le := h.1, aligned := h.2 }
      else none
  | _ => none

theorem ofText?_text (block : Block) : ofText? block.text = some block := by
  have hlawful : block.length ≤ 32 ∧ block.first.value % width block.length = 0 :=
    ⟨block.length_le, block.aligned⟩
  rw [ofText?, split_text]
  simp only [String.ofList_toList, Address.ofText?_text, Decimal.read?_text]
  exact dif_pos hlawful

end Block

namespace AddressRange

/-- Blocks that follow one another without a gap, from the first address of a range to its last. -/
structure TiledBy (range : AddressRange) (blocks : List Block) : Prop where
  first : blocks.head?.map Block.first = some range.first
  contiguous : blocks.IsChain fun block next => next.first.value = block.last.value + 1
  last : blocks.getLast?.map Block.last = some range.last

theorem tiledBy_blocks {range : AddressRange} (hordered : range.Ordered) :
    range.TiledBy range.blocks := by
  suffices htiled : range.blocks.head?.map (fun block => block.first.value) =
        some range.first.value ∧
      (range.blocks.IsChain fun block next => next.first.value = block.last.value + 1) ∧
      range.blocks.getLast?.map Block.last = some range.last by
    obtain ⟨hfirst, hchain, hlast⟩ := htiled
    obtain ⟨block, hblock, hvalue⟩ := Option.map_eq_some_iff.mp hfirst
    exact ⟨Option.map_eq_some_iff.mpr ⟨block, hblock, Address.ext hvalue⟩, hchain, hlast⟩
  refine Block.cover_induction_of_le (motive := fun start blocks =>
    blocks.head?.map (fun block => block.first.value) = some start ∧
      (blocks.IsChain fun block next => next.first.value = block.last.value + 1) ∧
      blocks.getLast?.map Block.last = some range.last) ?_ ?_ hordered
  · intro block _ hend
    have hlast : block.last = range.last := Address.ext (by have := block.last_succ; omega)
    exact ⟨rfl, .singleton block, congrArg some hlast⟩
  · intro block rest _ _ hrest
    obtain ⟨hfirst, hchain, hlast⟩ := hrest
    obtain ⟨next, hnext, hvalue⟩ := Option.map_eq_some_iff.mp hfirst
    obtain ⟨final, hfinal, _⟩ := Option.map_eq_some_iff.mp hlast
    refine ⟨rfl, hchain.cons fun other hother => ?_, ?_⟩
    · obtain rfl : next = other := Option.some.inj (hnext.symm.trans hother)
      rw [hvalue, block.last_succ]
    · rw [List.getLast?_cons, hfinal, Option.getD_some, ← hfinal]
      exact hlast

/-- Each of the blocks ends before the next ones begin. -/
theorem TiledBy.ascending {range : AddressRange} {blocks : List Block}
    (htiled : range.TiledBy blocks) :
    blocks.Pairwise fun block later => block.last.value < later.first.value := by
  have hbefore : blocks.IsChain fun block next => block.last.value < next.first.value :=
    htiled.contiguous.imp fun block next hnext =>
      Nat.lt_of_lt_of_eq (Nat.lt_succ_self _) hnext.symm
  have : IsTrans Block fun block later => block.last.value < later.first.value :=
    ⟨fun block next later hnext hlater =>
      Nat.lt_trans (Nat.lt_of_lt_of_le hnext next.first_le_last) hlater⟩
  exact List.isChain_iff_pairwise.mp hbefore

/-- A range is cut without any overflow into blocks whose texts name them.  A range that is not
reversed has blocks, which follow one another from its first address to its last; they ascend, no
two of them share an address, and together they contain the addresses of the range.  A reversed
range has none. -/
theorem blocks_exact (range : AddressRange) :
    Word.blockTexts? range.first.word range.last.word = some (range.blocks.map Block.text) ∧
    (∀ block ∈ range.blocks, Block.ofText? block.text = some block) ∧
    (range.Ordered →
      range.blocks ≠ [] ∧ range.TiledBy range.blocks ∧
      (range.blocks.Pairwise fun block later => block.last.value < later.first.value) ∧
      ∀ address, (∃ block ∈ range.blocks, block.Contains address) ↔ range.Contains address) ∧
    (¬range.Ordered → range.blocks = []) := by
  refine ⟨Word.blockTexts?_eq range, fun block _ => block.ofText?_text, fun hordered => ?_, ?_⟩
  · have htiled := tiledBy_blocks hordered
    exact ⟨Block.cover_ne_nil hordered, htiled, htiled.ascending, fun _ => exists_mem_blocks_iff⟩
  · exact blocks_eq_nil_iff.mpr

/-- A range that ends at the last address of all is cut into blocks up to that address. -/
theorem blocks_exact_of_last_addresses :
    let range : AddressRange := ⟨.ofOctets 255 255 255 249, .broadcast⟩
    range.Ordered ∧ range.TiledBy range.blocks ∧
      Word.blockTexts? range.first.word range.last.word =
        some ["255.255.255.249/32", "255.255.255.250/31", "255.255.255.252/30"] := by
  intro range
  obtain ⟨htexts, _, htiled, _⟩ := blocks_exact range
  have hordered : range.Ordered := by decide
  refine ⟨hordered, (htiled hordered).2.1, ?_⟩
  rw [htexts]
  cbv

end AddressRange

end ContainerNetwork
