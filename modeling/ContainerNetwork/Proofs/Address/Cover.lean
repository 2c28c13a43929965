import ContainerNetwork.Address.Block

/-!
# What blocks cover

The blocks of a range are cut from its first address on, each as wide as its place allows.  They
contain exactly the addresses of the range.  None of them contains all addresses, unless the range
does.
-/

namespace ContainerNetwork

theorem Address.ext {left right : Address} (hvalue : left.value = right.value) : left = right := by
  cases left
  cases right
  cases hvalue
  rfl

namespace AddressRange

def Contains (range : AddressRange) (address : Address) : Prop :=
  range.first.value ≤ address.value ∧ address.value ≤ range.last.value

instance (range : AddressRange) (address : Address) : Decidable (range.Contains address) :=
  inferInstanceAs (Decidable (_ ∧ _))

/-- A range that is not reversed. -/
def Ordered (range : AddressRange) : Prop := range.first.value ≤ range.last.value

instance (range : AddressRange) : Decidable range.Ordered :=
  inferInstanceAs (Decidable (_ ≤ _))

theorem all_contains (address : Address) : all.Contains address :=
  ⟨Nat.zero_le _, Nat.le_sub_one_of_lt address.value_lt⟩

/-- A reversed range contains nothing. -/
theorem Contains.ordered {range : AddressRange} {address : Address}
    (hcontains : range.Contains address) : range.Ordered :=
  Nat.le_trans hcontains.1 hcontains.2

end AddressRange

namespace Block

/-- The width of a longer length divides that of a shorter one. -/
theorem width_dvd {length longer : Nat} (hle : length ≤ longer) : width longer ∣ width length :=
  Nat.pow_dvd_pow 2 (Nat.sub_le_sub_left hle 32)

/-- Where a block fits, every narrower one fits. -/
theorem Fits.narrower {start stop length longer : Nat} (hfits : Fits start stop length)
    (hle : length ≤ longer) : Fits start stop longer := by
  have hdvd := width_dvd hle
  have hwidth := Nat.le_of_dvd (width_pos length) hdvd
  have haligned := Nat.dvd_trans hdvd (Nat.dvd_of_mod_eq_zero hfits.1)
  exact ⟨Nat.mod_eq_zero_of_dvd haligned, by have := hfits.2; omega⟩

/-- The length of the widest block that fits at a place. -/
structure Widest (start stop length : Nat) : Prop where
  fits : Fits start stop length
  length_le : ∀ other, Fits start stop other → length ≤ other

/-- Widening ends at the first length that does not fit; no shorter one would fit either. -/
theorem widen_le_of_fits {start stop length other : Nat} (hother : Fits start stop other) :
    widen start stop length ≤ other := by
  induction length with
  | zero => exact Nat.zero_le other
  | succ length ih =>
      rw [widen]
      split
      · exact ih
      · rename_i hstop
        exact Nat.lt_of_not_le fun hle => hstop (hother.narrower hle)

theorem widest_widen {start stop : Nat} (hle : start ≤ stop) :
    Widest start stop (widen start stop 32) where
  fits := fits_widen (fits_narrowest hle)
  length_le _ := widen_le_of_fits

/-- The addresses of a block: those that share their highest bits with its first. -/
def Contains (block : Block) (address : Address) : Prop :=
  address.value / width block.length = block.first.value / width block.length

theorem contains_iff {block : Block} {address : Address} :
    block.Contains address ↔ block.first.value ≤ address.value ∧
      address.value < block.first.value + width block.length := by
  have hpos := width_pos block.length
  have hfirst := Nat.div_mul_cancel (Nat.dvd_of_mod_eq_zero block.aligned)
  rw [Contains, Nat.div_eq_iff hpos, hfirst]
  omega

/-- The first block of a cover is the widest that fits, and the others cover the rest. -/
theorem cover_eq_cons {start : Nat} {stop : Address} (hle : start ≤ stop.value) :
    ∃ block, block.first.value = start ∧ Widest start stop.value block.length ∧
      cover start stop = block :: cover (start + width block.length) stop := by
  rw [cover, dif_pos hle]
  exact ⟨_, rfl, widest_widen hle, rfl⟩

theorem cover_eq_nil {start : Nat} {stop : Address} (hreversed : ¬start ≤ stop.value) :
    cover start stop = [] := by
  rw [cover, dif_neg hreversed]

/-- What holds of no blocks, and of the widest block and a cover of the rest, holds of every
cover. -/
theorem cover_induction {stop : Address} {motive : Nat → List Block → Prop}
    (hnil : ∀ start, ¬start ≤ stop.value → motive start [])
    (hcons : ∀ (block : Block) (rest : List Block),
      Widest block.first.value stop.value block.length →
        motive (block.first.value + width block.length) rest →
          motive block.first.value (block :: rest))
    (start : Nat) : motive start (cover start stop) := by
  induction hrest : stop.value + 1 - start using Nat.strongRecOn generalizing start with
  | ind remaining ih =>
      by_cases hle : start ≤ stop.value
      · obtain ⟨block, rfl, hwidest, hcover⟩ := cover_eq_cons hle
        have hwidth := width_pos block.length
        rw [hcover]
        exact hcons block _ hwidest (ih _ (by omega) _ rfl)
      · rw [cover_eq_nil hle]
        exact hnil start hle

/-- What holds of a last block, and of a block and a cover of what it leaves, holds of every cover
that has a block. -/
theorem cover_induction_of_le {stop : Address} {motive : Nat → List Block → Prop}
    (hlast : ∀ block : Block, Widest block.first.value stop.value block.length →
      block.first.value + width block.length = stop.value + 1 → motive block.first.value [block])
    (hcons : ∀ (block : Block) (rest : List Block),
      Widest block.first.value stop.value block.length →
        block.first.value + width block.length ≤ stop.value →
          motive (block.first.value + width block.length) rest →
            motive block.first.value (block :: rest))
    {start : Nat} (hle : start ≤ stop.value) : motive start (cover start stop) := by
  suffices hcover : (¬start ≤ stop.value → cover start stop = []) ∧
      (start ≤ stop.value → motive start (cover start stop)) from hcover.2 hle
  refine cover_induction (motive := fun start blocks =>
    (¬start ≤ stop.value → blocks = []) ∧ (start ≤ stop.value → motive start blocks)) ?_ ?_ start
  · intro start hreversed
    exact ⟨fun _ => rfl, fun hle => absurd hle hreversed⟩
  · intro block rest hwidest hrest
    have hpos := width_pos block.length
    have hend := hwidest.fits.2
    refine ⟨fun hreversed => absurd hreversed (by omega), fun _ => ?_⟩
    by_cases hmore : block.first.value + width block.length ≤ stop.value
    · exact hcons block rest hwidest hmore (hrest.2 hmore)
    · rw [hrest.1 hmore]
      exact hlast block hwidest (by omega)

/-- The blocks from `start` to `stop` contain the addresses from `start` to `stop`. -/
theorem exists_mem_cover_iff (start : Nat) {stop address : Address} :
    (∃ block ∈ cover start stop, block.Contains address) ↔
      start ≤ address.value ∧ address.value ≤ stop.value := by
  refine cover_induction (motive := fun start blocks =>
    (∃ block ∈ blocks, block.Contains address) ↔
      start ≤ address.value ∧ address.value ≤ stop.value) ?_ ?_ start
  · intro start hreversed
    simp only [List.not_mem_nil, false_and, exists_false, false_iff]
    omega
  · intro block rest hwidest hrest
    have hstop := hwidest.fits.2
    simp only [List.mem_cons, exists_eq_or_imp]
    rw [hrest, contains_iff]
    omega

/-- No block contains all addresses, unless it is cut from the range of all. -/
theorem length_ne_zero {start : Nat} {stop : Address} (hpart : ¬(start = 0 ∧ stop = .broadcast)) :
    ∀ block ∈ cover start stop, block.length ≠ 0 := by
  refine cover_induction (motive := fun start blocks =>
    ¬(start = 0 ∧ stop = .broadcast) → ∀ block ∈ blocks, block.length ≠ 0) ?_ ?_ start hpart
  · intro start _ _ block hblock
    exact absurd hblock List.not_mem_nil
  · intro block rest hwidest hrest hpart other hother
    have hwidth := width_pos block.length
    rcases List.mem_cons.mp hother with rfl | hother
    · intro hlength
      have hend := hwidest.fits.2
      have hall : width 0 = UInt32.size := rfl
      have hlt := stop.value_lt
      rw [hlength, hall] at hend
      have hvalue : stop.value = Address.broadcast.value := by
        change stop.value = UInt32.size - 1
        omega
      exact hpart ⟨by omega, Address.ext hvalue⟩
    · exact hrest (by omega) other hother

/-- A range that is not reversed has a block. -/
theorem cover_ne_nil {start : Nat} {stop : Address} (hle : start ≤ stop.value) :
    cover start stop ≠ [] := by
  obtain ⟨block, _, _, hcover⟩ := cover_eq_cons hle
  rw [hcover]
  exact List.cons_ne_nil _ _

end Block

namespace AddressRange

theorem exists_mem_blocks_iff {range : AddressRange} {address : Address} :
    (∃ block ∈ range.blocks, block.Contains address) ↔ range.Contains address :=
  Block.exists_mem_cover_iff _

theorem blocks_eq_nil_iff {range : AddressRange} : range.blocks = [] ↔ ¬range.Ordered := by
  constructor
  · intro hnil hordered
    exact Block.cover_ne_nil hordered hnil
  · exact Block.cover_eq_nil

end AddressRange

end ContainerNetwork
