import ContainerNetwork.Proofs.Address.Exact
import Mathlib

/-!
# No fewer blocks do

Of two blocks that share an address the wider one holds the other.  A block that is as wide as its
place allows therefore lies in no wider block of the range, and whatever blocks of the range reach
into it lie in it.  So a cover of the range has a block of its own for each of the range's blocks.
-/

namespace ContainerNetwork

/-- The addresses that a range contains. -/
def AddressRange.addresses (range : AddressRange) : Set Address :=
  {address | range.Contains address}

namespace Block

/-- The addresses that a block contains. -/
def addresses (block : Block) : Set Address := {address | block.Contains address}

/-- The block of a single address. -/
def host (address : Address) : Block where
  first := address
  length := 32
  length_le := Nat.le_refl 32
  aligned := Nat.mod_one address.value

theorem eq_of_first_of_length {left right : Block} (hfirst : left.first = right.first)
    (hlength : left.length = right.length) : left = right := by
  cases left
  cases right
  cases hfirst
  cases hlength
  rfl

/-- A block lies in a range when its first and its last address do. -/
theorem subset_range_iff {block : Block} {range : AddressRange} :
    block.addresses ⊆ range.addresses ↔
      range.first.value ≤ block.first.value ∧ block.last.value ≤ range.last.value := by
  constructor
  · intro hsubset
    exact ⟨(hsubset block.contains_first).1, (hsubset block.contains_last).2⟩
  · intro hends address haddress
    have hbetween := contains_iff_between.mp haddress
    exact ⟨hends.1.trans hbetween.1, hbetween.2.trans hends.2⟩

/-- Of two blocks that share an address the wider one begins no later and ends no sooner. -/
theorem nested {narrow wide : Block} {address : Address} (hle : wide.length ≤ narrow.length)
    (hnarrow : narrow.Contains address) (hwide : wide.Contains address) :
    wide.first.value ≤ narrow.first.value ∧ narrow.last.value ≤ wide.last.value := by
  obtain ⟨factor, hfactor⟩ := width_dvd hle
  have hpos : 0 < factor := Nat.pos_of_ne_zero fun hzero => by
    have hwidth := width_pos wide.length
    rw [hfactor, hzero] at hwidth
    exact absurd hwidth (by omega)
  -- Both are counted in widths of the narrow block.
  let index := narrow.first.value / width narrow.length
  have hnarrowFirst : narrow.first.value = width narrow.length * index :=
    (Nat.mul_div_cancel' (Nat.dvd_of_mod_eq_zero narrow.aligned)).symm
  have hwideFirst : wide.first.value = width narrow.length * (factor * (index / factor)) := by
    have hindex : address.value / width wide.length = index / factor := by
      rw [hfactor, ← Nat.div_div_eq_div_mul, hnarrow]
    calc wide.first.value
        = width wide.length * (wide.first.value / width wide.length) :=
          (Nat.mul_div_cancel' (Nat.dvd_of_mod_eq_zero wide.aligned)).symm
      _ = width wide.length * (index / factor) := by rw [← hwide, hindex]
      _ = width narrow.length * (factor * (index / factor)) := by rw [hfactor, Nat.mul_assoc]
  constructor
  · rw [hwideFirst, hnarrowFirst]
    exact Nat.mul_le_mul_left _ (Nat.mul_div_le index factor)
  · have hnext : index + 1 ≤ factor * (index / factor) + factor := by
      have hrest := Nat.mod_lt index hpos
      have hdivision := Nat.div_add_mod index factor
      omega
    have hends : narrow.last.value + 1 ≤ wide.last.value + 1 := by
      calc narrow.last.value + 1
          = width narrow.length * (index + 1) := by rw [last_succ, hnarrowFirst, Nat.mul_succ]
        _ ≤ width narrow.length * (factor * (index / factor) + factor) :=
          Nat.mul_le_mul_left _ hnext
        _ = wide.last.value + 1 := by rw [last_succ, hwideFirst, hfactor, Nat.mul_add]
    exact Nat.le_of_succ_le_succ hends

/-! ## The widest blocks -/

/-- No block between `floor` and `stop` reaches over `start`. -/
def Uncrossed (floor start stop : Nat) : Prop :=
  ∀ block : Block, floor ≤ block.first.value → block.last.value ≤ stop →
    block.first.value < start → block.last.value < start

section Uncrossed

variable {floor stop : Nat} {block other : Block}

/-- Where no block reaches over the place of a widest block, none that contains its first address
is wider. -/
theorem Widest.length_le_of_contains (hwidest : Widest block.first.value stop block.length)
    (huncrossed : Uncrossed floor block.first.value stop) (hfloor : floor ≤ other.first.value)
    (hstop : other.last.value ≤ stop) (hcontains : other.Contains block.first) :
    block.length ≤ other.length := by
  have hbetween := contains_iff_between.mp hcontains
  have hfirst : other.first.value = block.first.value := by
    by_contra hne
    have hbefore := huncrossed other hfloor hstop (Nat.lt_of_le_of_ne hbetween.1 hne)
    omega
  have hlast := other.last_succ
  apply hwidest.length_le
  rw [← hfirst]
  exact ⟨other.aligned, by omega⟩

/-- No block reaches over the end of a widest block either. -/
theorem Widest.uncrossed (hwidest : Widest block.first.value stop block.length)
    (huncrossed : Uncrossed floor block.first.value stop) :
    Uncrossed floor (block.first.value + width block.length) stop := by
  intro other hfloor hstop hbefore
  rw [← last_succ, Nat.lt_succ_iff] at hbefore ⊢
  have hordered := block.first_le_last
  by_cases hfirst : other.first.value < block.first.value
  · have hends := huncrossed other hfloor hstop hfirst
    omega
  · have hinside : block.Contains other.first :=
      contains_iff_between.mpr ⟨Nat.le_of_not_lt hfirst, hbefore⟩
    have hle : block.length ≤ other.length := by
      rcases Nat.le_total block.length other.length with hle | hwider
      · exact hle
      · have hends := nested hwider hinside other.contains_first
        have hcontains : other.Contains block.first :=
          contains_iff_between.mpr ⟨hends.1, by omega⟩
        exact hwidest.length_le_of_contains huncrossed hfloor hstop hcontains
    exact (nested hle other.contains_first hinside).2

end Uncrossed

/-- No block between `floor` and `stop` that contains the first address of a block of the cover is
wider than that. -/
theorem length_le_of_mem_cover {floor start : Nat} {stop : Address}
    (huncrossed : Uncrossed floor start stop.value) :
    ∀ block ∈ cover start stop, ∀ other : Block, floor ≤ other.first.value →
      other.last.value ≤ stop.value → other.Contains block.first →
        block.length ≤ other.length := by
  refine cover_induction (motive := fun start blocks => Uncrossed floor start stop.value →
    ∀ block ∈ blocks, ∀ other : Block, floor ≤ other.first.value →
      other.last.value ≤ stop.value → other.Contains block.first →
        block.length ≤ other.length) ?_ ?_ start huncrossed
  · intro start _ _ block hblock
    exact absurd hblock List.not_mem_nil
  · intro block rest hwidest hrest huncrossed found hfound
    rcases List.mem_cons.mp hfound with rfl | hfound
    · intro other
      exact hwidest.length_le_of_contains huncrossed
    · exact hrest (hwidest.uncrossed huncrossed) found hfound

end Block

namespace AddressRange

variable {range : AddressRange} {block other : Block}

/-- A block of the range that meets one of `range.blocks` lies in it. -/
theorem length_le_of_meets (hblock : block ∈ range.blocks)
    (hother : other.addresses ⊆ range.addresses) {address : Address}
    (hmeets : block.Contains address) (hcontains : other.Contains address) :
    block.length ≤ other.length := by
  have hends := Block.subset_range_iff.mp hother
  have huncrossed : Block.Uncrossed range.first.value range.first.value range.last.value :=
    fun early hfloor _ hbefore => absurd hfloor (Nat.not_le_of_lt hbefore)
  rcases Nat.le_total block.length other.length with hle | hwider
  · exact hle
  · have hnested := Block.nested hwider hmeets hcontains
    have hfirst : other.Contains block.first := Block.contains_iff_between.mpr
      ⟨hnested.1, block.first_le_last.trans hnested.2⟩
    exact Block.length_le_of_mem_cover huncrossed block hblock other hends.1 hends.2 hfirst

theorem subset_of_meets (hblock : block ∈ range.blocks)
    (hother : other.addresses ⊆ range.addresses) {address : Address}
    (hmeets : block.Contains address) (hcontains : other.Contains address) :
    other.addresses ⊆ block.addresses := by
  have hle := length_le_of_meets hblock hother hmeets hcontains
  have hends := Block.nested hle hcontains hmeets
  intro found hfound
  have hbetween := Block.contains_iff_between.mp hfound
  exact Block.contains_iff_between.mpr ⟨hends.1.trans hbetween.1, hbetween.2.trans hends.2⟩

theorem subset_of_mem_blocks (hblock : block ∈ range.blocks) :
    block.addresses ⊆ range.addresses :=
  fun _ haddress => exists_mem_blocks_iff.mp ⟨block, hblock, haddress⟩

theorem blocks_nodup (range : AddressRange) : range.blocks.Nodup := by
  by_cases hordered : range.Ordered
  · refine (tiledBy_blocks hordered).ascending.imp ?_
    rintro block later hbefore rfl
    exact absurd block.first_le_last (Nat.not_le_of_lt hbefore)
  · rw [blocks_eq_nil_iff.mpr hordered]
    exact List.nodup_nil

/-- Blocks of the range into which the same block of a cover reaches are the same. -/
theorem eq_of_meets (hblock : block ∈ range.blocks) (hother : other ∈ range.blocks) {piece : Block}
    (hpiece : piece.addresses ⊆ range.addresses) (hfirst : piece.Contains block.first)
    (hotherFirst : piece.Contains other.first) : block = other := by
  have hleft : block.Contains other.first :=
    subset_of_meets hblock hpiece block.contains_first hfirst hotherFirst
  have hright : other.Contains block.first :=
    subset_of_meets hother hpiece other.contains_first hotherFirst hfirst
  have hlength : block.length = other.length := Nat.le_antisymm
    (length_le_of_meets hblock (subset_of_mem_blocks hother) block.contains_first hright)
    (length_le_of_meets hother (subset_of_mem_blocks hblock) other.contains_first hleft)
  have hfirsts : block.first.value = other.first.value := Nat.le_antisymm
    (Block.contains_iff_between.mp hleft).1 (Block.contains_iff_between.mp hright).1
  exact Block.eq_of_first_of_length (Address.ext hfirsts) hlength

/-- A list of blocks that together are a range has a block for each of the range's blocks. -/
theorem length_blocks_le {cover : List Block}
    (hcover : ⋃ block ∈ cover, block.addresses = range.addresses) :
    range.blocks.length ≤ cover.length := by
  have hsubset (piece : Block) (hpiece : piece ∈ cover) : piece.addresses ⊆ range.addresses := by
    rw [← hcover]
    exact Set.subset_biUnion_of_mem (u := Block.addresses) hpiece
  have hpiece : ∀ block ∈ range.blocks, ∃ piece ∈ cover, piece.Contains block.first := by
    intro block hblock
    have hfirst : block.first ∈ range.addresses :=
      subset_of_mem_blocks hblock block.contains_first
    rw [← hcover] at hfirst
    obtain ⟨piece, hpiece, hcontains⟩ := Set.mem_iUnion₂.mp hfirst
    exact ⟨piece, hpiece, hcontains⟩
  have : Nonempty Block := ⟨.host .unspecified⟩
  choose! piece hmem hcontains using hpiece
  have hdistinct : (range.blocks.map piece).Nodup := by
    refine List.Nodup.map_on (fun block hblock other hother heq => ?_) range.blocks_nodup
    have hotherFirst := hcontains other hother
    rw [← heq] at hotherFirst
    exact eq_of_meets hblock hother (hsubset _ (hmem block hblock)) (hcontains block hblock)
      hotherFirst
  have hwithin : range.blocks.map piece ⊆ cover := by
    intro found hfound
    obtain ⟨block, hblock, rfl⟩ := List.mem_map.mp hfound
    exact hmem block hblock
  calc range.blocks.length
      = (range.blocks.map piece).length := (List.length_map piece).symm
    _ ≤ cover.length := (hdistinct.subperm hwithin).length_le

/-- No block of a range lies strictly in a wider block of the same range, and no list of blocks,
in whatever order and however they overlap, is the range with fewer of them. -/
theorem blocks_minimal (range : AddressRange) :
    (∀ block ∈ range.blocks, ∀ wider : Block, wider.addresses ⊆ range.addresses →
      ¬block.addresses ⊂ wider.addresses) ∧
    ∀ cover : List Block, ⋃ block ∈ cover, block.addresses = range.addresses →
      range.blocks.length ≤ cover.length := by
  refine ⟨fun block hblock wider hwider hstrict => ?_, fun cover => length_blocks_le⟩
  have hfirst : wider.Contains block.first := hstrict.1 block.contains_first
  exact hstrict.2 (subset_of_meets hblock hwider block.contains_first hfirst)

/-- Two blocks cover three addresses, which blocks out of order that overlap cover as well. -/
theorem blocks_minimal_of_overlap :
    let range : AddressRange := ⟨.ofOctets 10 0 0 0, .ofOctets 10 0 0 2⟩
    let pair : Block :=
      { first := .ofOctets 10 0 0 0, length := 31, length_le := by decide, aligned := rfl }
    let cover : List Block := [.host (.ofOctets 10 0 0 2), .host (.ofOctets 10 0 0 1), pair]
    ⋃ block ∈ cover, block.addresses = range.addresses ∧
      range.blocks.length ≤ cover.length ∧ range.blocks.length = 2 := by
  intro range pair cover
  have hwidths : Block.width 31 = 2 ∧ Block.width 32 = 1 := ⟨rfl, rfl⟩
  have hvalues : (Address.ofOctets 10 0 0 0).value = 167772160 ∧
      (Address.ofOctets 10 0 0 1).value = 167772161 ∧
      (Address.ofOctets 10 0 0 2).value = 167772162 := ⟨rfl, rfl, rfl⟩
  have hcover : ⋃ block ∈ cover, block.addresses = range.addresses := by
    ext address
    simp only [cover, pair, range, Set.mem_iUnion₂, List.mem_cons, List.not_mem_nil, or_false,
      exists_prop, exists_eq_or_imp, exists_eq_left, Block.addresses, AddressRange.addresses,
      Set.mem_ofPred_eq, Block.contains_iff, Block.host, AddressRange.Contains, hwidths, hvalues]
    omega
  exact ⟨hcover, (blocks_minimal range).2 cover hcover, by cbv⟩

end AddressRange

end ContainerNetwork
