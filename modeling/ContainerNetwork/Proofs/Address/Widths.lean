import ContainerNetwork.Proofs.Address.Cover
import Mathlib

/-!
# How wide the blocks of a range are

A block ends either where the alignment of its place lets it grow no further, so that the next place
is aligned to twice its width, or where the range has no room for twice its width.  Once there is no
room, there is none for any later block.  The blocks of a range therefore grow and then shrink, and
the two at the turn may be equally wide.  Widths that differ are different powers of two, so that
many blocks need many addresses.
-/

namespace ContainerNetwork

namespace Block

variable {start length longer : Nat}

/-- An aligned place at which a block of this length would end past `stop`. -/
def Cramped (start stop length : Nat) : Prop :=
  start % width length = 0 ∧ stop + 1 < start + width length

theorem cramped_of_not_fits {stop : Nat} (haligned : start % width length = 0)
    (hunfit : ¬Fits start stop length) : Cramped start stop length :=
  ⟨haligned, Nat.lt_of_not_le fun hroom => hunfit ⟨haligned, hroom⟩⟩

theorem width_eq_two_mul (hlt : length < 32) : width length = 2 * width (length + 1) := by
  have hexponent : 32 - length = 32 - (length + 1) + 1 := by omega
  calc width length
      = 2 ^ (32 - (length + 1) + 1) := congrArg (2 ^ ·) hexponent
    _ = 2 * width (length + 1) := Nat.pow_succ'

theorem width_lt_width (hlt : length < longer) (hle : longer ≤ 32) :
    width longer < width length :=
  Nat.pow_lt_pow_right (by decide) (by omega)

/-! ## One block after the other -/

namespace Widest

/-- The next place is aligned to the width of the block before it. -/
theorem aligned_next {stop : Nat} (hwidest : Widest start stop length) :
    (start + width length) % width length = 0 := by
  rw [Nat.add_mod_right]
  exact hwidest.fits.1

/-- A block that would be twice as wide is not aligned or has no room. -/
theorem not_fits_wider {stop wider : Nat} (hwidest : Widest start stop (wider + 1)) :
    ¬Fits start stop wider :=
  fun hfits => Nat.not_succ_le_self wider (hwidest.length_le wider hfits)

/-- A place that has no room for some width has none for two of its widest block, and that block is
narrower. -/
theorem cramped_next {stop : Nat} (hwidest : Widest start stop longer) (hle : longer ≤ 32)
    (hcramped : Cramped start stop length) :
    length < longer ∧ Cramped (start + width longer) stop longer := by
  have hlt : length < longer := by
    by_contra hnarrow
    have hwidth := Nat.le_of_dvd (width_pos longer) (width_dvd (Nat.le_of_not_lt hnarrow))
    have hroom := hwidest.fits.2
    have hover := hcramped.2
    omega
  obtain ⟨wider, rfl⟩ : ∃ wider, longer = wider + 1 := ⟨longer - 1, by omega⟩
  have hdvd : width wider ∣ start :=
    Nat.dvd_trans (width_dvd (Nat.le_of_lt_succ hlt)) (Nat.dvd_of_mod_eq_zero hcramped.1)
  have hover := (cramped_of_not_fits (Nat.mod_eq_zero_of_dvd hdvd) hwidest.not_fits_wider).2
  rw [width_eq_two_mul (Nat.lt_of_succ_le hle)] at hover
  exact ⟨hlt, hwidest.aligned_next, by omega⟩

/-- After a widest block there is no room for another one as wide, or the place is aligned to a
block twice as wide. -/
theorem cramped_or_aligned_next {stop : Address} (hwidest : Widest start stop.value length)
    (hle : length ≤ 32) :
    Cramped (start + width length) stop.value length ∨
      ∃ wider, length = wider + 1 ∧ (start + width length) % width wider = 0 := by
  cases length with
  | zero =>
      have hall : width 0 = UInt32.size := rfl
      have hstop := stop.value_lt
      exact .inl ⟨hwidest.aligned_next, by omega⟩
  | succ wider =>
      have hdouble : width wider = width (wider + 1) * 2 := by
        rw [width_eq_two_mul (Nat.lt_of_succ_le hle), Nat.mul_comm]
      by_cases haligned : start % width wider = 0
      · have hcramped := cramped_of_not_fits haligned hwidest.not_fits_wider
        exact .inl (hwidest.cramped_next hle hcramped).2
      · obtain ⟨count, rfl⟩ := Nat.dvd_of_mod_eq_zero hwidest.fits.1
        rw [hdouble, Nat.mul_mod_mul_left, Nat.mul_eq_zero, not_or] at haligned
        have heven : (count + 1) % 2 = 0 := by omega
        refine .inr ⟨wider, rfl, ?_⟩
        rw [hdouble, ← Nat.mul_succ, Nat.mul_mod_mul_left, heven, Nat.mul_zero]

end Widest

/-! ## All blocks of a range -/

/-- Blocks from `start` to `stop`, of which the first ones grow and the others shrink.  Those that
grow are as wide as any block that fits at `start`, and those that shrink are narrower than any for
which there is no room. -/
structure Parted (start stop : Nat) (growing shrinking : List Block) : Prop where
  grows : growing.Pairwise fun block later => later.length < block.length
  shrinks : shrinking.Pairwise fun block later => block.length < later.length
  fitting : ∀ length, Fits start stop length → ∀ block ∈ growing, block.length ≤ length
  cramped : ∀ length, Cramped start stop length →
    growing = [] ∧ ∀ block ∈ shrinking, length < block.length

namespace Parted

variable {stop : Nat} {block : Block} {growing shrinking : List Block}

theorem nil (start stop : Nat) : Parted start stop [] [] where
  grows := .nil
  shrinks := .nil
  fitting _ _ _ hblock := absurd hblock List.not_mem_nil
  cramped _ _ := ⟨rfl, fun _ hblock => absurd hblock List.not_mem_nil⟩

/-- A block that leaves no room for another one as wide is the first of those that shrink. -/
theorem cons_cramped (hwidest : Widest block.first.value stop block.length)
    (hcramped : Cramped (block.first.value + width block.length) stop block.length)
    (hrest : Parted (block.first.value + width block.length) stop growing shrinking) :
    growing = [] ∧ Parted block.first.value stop [] (block :: shrinking) := by
  obtain ⟨hnone, hnarrower⟩ := hrest.cramped _ hcramped
  refine ⟨hnone, .nil, hrest.shrinks.cons hnarrower,
    fun _ _ _ hblock => absurd hblock List.not_mem_nil, fun length hbefore => ?_⟩
  have hlt := (hwidest.cramped_next block.length_le hbefore).1
  exact ⟨rfl, List.forall_mem_cons.mpr ⟨hlt, fun later hlater =>
    Nat.lt_trans hlt (hnarrower later hlater)⟩⟩

/-- A block that leaves room for another one as wide, at a place for one twice as wide, is the first
of those that grow. -/
theorem cons_aligned {wider : Nat} (hwidest : Widest block.first.value stop block.length)
    (hroom : ¬Cramped (block.first.value + width block.length) stop block.length)
    (hwider : block.length = wider + 1)
    (haligned : (block.first.value + width block.length) % width wider = 0)
    (hrest : Parted (block.first.value + width block.length) stop growing shrinking) :
    Parted block.first.value stop (block :: growing) shrinking := by
  have hgrows : ∀ later ∈ growing, later.length < block.length := by
    intro later hlater
    by_cases hfits : Fits (block.first.value + width block.length) stop wider
    · have hle := hrest.fitting wider hfits later hlater
      omega
    · have hnone := (hrest.cramped wider (cramped_of_not_fits haligned hfits)).1
      rw [hnone] at hlater
      cases hlater
  refine ⟨hrest.grows.cons hgrows, hrest.shrinks, fun length hfits => ?_, fun length hbefore => ?_⟩
  · have hle := hwidest.length_le length hfits
    exact List.forall_mem_cons.mpr ⟨hle, fun later hlater =>
      Nat.le_trans (Nat.le_of_lt (hgrows later hlater)) hle⟩
  · exact absurd (hwidest.cramped_next block.length_le hbefore).2 hroom

end Parted

theorem exists_parted (start : Nat) (stop : Address) :
    ∃ growing shrinking, cover start stop = growing ++ shrinking ∧
      Parted start stop.value growing shrinking := by
  refine cover_induction (motive := fun start blocks => ∃ growing shrinking,
    blocks = growing ++ shrinking ∧ Parted start stop.value growing shrinking) ?_ ?_ start
  · intro start _
    exact ⟨[], [], rfl, .nil start stop.value⟩
  · rintro block rest hwidest ⟨growing, shrinking, rfl, hrest⟩
    by_cases hcramped : Cramped (block.first.value + width block.length) stop.value block.length
    · obtain ⟨rfl, hparted⟩ := hrest.cons_cramped hwidest hcramped
      exact ⟨[], block :: shrinking, rfl, hparted⟩
    · obtain ⟨wider, hwider, haligned⟩ :=
        (hwidest.cramped_or_aligned_next block.length_le).resolve_left hcramped
      exact ⟨block :: growing, shrinking, rfl,
        hrest.cons_aligned hwidest hcramped hwider haligned⟩

/-- The blocks from `start` to `stop` are as wide as the addresses are many. -/
theorem sum_width_cover (start : Nat) (stop : Address) :
    ((cover start stop).map fun block => width block.length).sum = stop.value + 1 - start := by
  refine cover_induction (motive := fun start blocks =>
    (blocks.map fun block => width block.length).sum = stop.value + 1 - start) ?_ ?_ start
  · intro start hreversed
    rw [List.map_nil, List.sum_nil]
    omega
  · intro block rest hwidest hrest
    have hroom := hwidest.fits.2
    rw [List.map_cons, List.sum_cons, hrest]
    omega

/-! ## How many blocks -/

section Shrinking

variable {blocks : List Block}

/-- Blocks that shrink have half as many addresses each time. -/
theorem two_pow_length_le_width
    (hshrinks : blocks.Pairwise fun block later => block.length < later.length)
    (hnarrower : ∀ block ∈ blocks, length < block.length) :
    2 ^ blocks.length ≤ width length := by
  induction blocks generalizing length with
  | nil => exact width_pos length
  | cons block rest ih =>
      rw [List.pairwise_cons] at hshrinks
      have hlt := hnarrower block List.mem_cons_self
      have hle := block.length_le
      calc 2 ^ (rest.length + 1)
          = 2 ^ rest.length * 2 := Nat.pow_succ 2 _
        _ ≤ width block.length * 2 := Nat.mul_le_mul_right 2 (ih hshrinks.2 hshrinks.1)
        _ = 2 ^ (32 - block.length + 1) := (Nat.pow_succ 2 _).symm
        _ ≤ width length := Nat.pow_le_pow_right (by decide) (by omega)

theorem two_pow_length_le_sum
    (hshrinks : blocks.Pairwise fun block later => block.length < later.length) :
    2 ^ blocks.length ≤ (blocks.map fun block => width block.length).sum + 1 := by
  induction blocks with
  | nil => exact Nat.le_refl 1
  | cons block rest ih =>
      rw [List.pairwise_cons] at hshrinks
      have hwidth := two_pow_length_le_width hshrinks.2 hshrinks.1
      have hsum := ih hshrinks.2
      rw [List.map_cons, List.sum_cons, List.length_cons, Nat.pow_succ]
      omega

end Shrinking

theorem count_length_le_one {blocks : List Block} (hne : blocks.Pairwise fun block later =>
    block.length ≠ later.length) (length : Nat) : (blocks.map Block.length).count length ≤ 1 :=
  List.nodup_iff_count_le_one.mp (List.pairwise_map.mpr hne) length

end Block

/-- Two numbers are not both large when their powers of two are not. -/
theorem add_le_of_two_pow_add_le {first second : Nat}
    (hpowers : 2 ^ first + 2 ^ second ≤ 2 ^ 32 + 2) : first + second ≤ 62 := by
  by_contra hmany
  have hpos (exponent : Nat) : 0 < 2 ^ exponent := Nat.two_pow_pos exponent
  have hpow {exponent least : Nat} (hle : least ≤ exponent) : 2 ^ least ≤ 2 ^ exponent :=
    Nat.pow_le_pow_right (by decide) hle
  have hfirst : first ≤ 32 := by
    by_contra hlarge
    have hlarger := hpow (Nat.lt_of_not_le hlarge)
    have hrest := hpos second
    omega
  have hsecond : second ≤ 32 := by
    by_contra hlarge
    have hlarger := hpow (Nat.lt_of_not_le hlarge)
    have hrest := hpos first
    omega
  have hleast : 2 ^ 31 ≤ 2 ^ first ∧ 2 ^ 31 ≤ 2 ^ second :=
    ⟨hpow (by omega), hpow (by omega)⟩
  rcases Nat.lt_or_ge first 32 with hless | hmost
  · have hother := hpow (show 32 ≤ second by omega)
    omega
  · have hother := hpow hmost
    omega

namespace AddressRange

/-- Sizes that grow strictly and then shrink strictly.  The last one that grows and the first one
that shrinks may be equal. -/
def Peaked (sizes : List Nat) : Prop :=
  ∃ growing shrinking, sizes = growing ++ shrinking ∧ growing.Pairwise (· < ·) ∧
    shrinking.Pairwise (· > ·)

/-- The blocks of a range grow and then shrink.  No length occurs more than twice among them, and
they are no more than sixty-two. -/
theorem blocks_peaked (range : AddressRange) :
    (∀ length, (range.blocks.map Block.length).count length ≤ 2) ∧
    Peaked (range.blocks.map fun block => Block.width block.length) ∧
    range.blocks.length ≤ 62 := by
  obtain ⟨growing, shrinking, hblocks, hparted⟩ :=
    Block.exists_parted range.first.value range.last
  have hsum := Block.sum_width_cover range.first.value range.last
  rw [hblocks, List.map_append, List.sum_append] at hsum
  rw [blocks, hblocks, List.map_append, List.map_append]
  refine ⟨fun length => ?_, ⟨_, _, rfl, ?_, ?_⟩, ?_⟩
  · have hgrowing := Block.count_length_le_one (hparted.grows.imp Nat.ne_of_gt) length
    have hshrinking := Block.count_length_le_one (hparted.shrinks.imp Nat.ne_of_lt) length
    rw [List.count_append]
    omega
  · exact List.pairwise_map.mpr
      (hparted.grows.imp fun {block _} hlt => Block.width_lt_width hlt block.length_le)
  · exact List.pairwise_map.mpr
      (hparted.shrinks.imp fun {_ later} hlt => Block.width_lt_width hlt later.length_le)
  · have hgrowing := Block.two_pow_length_le_sum (List.pairwise_reverse.mpr hparted.grows)
    have hshrinking := Block.two_pow_length_le_sum hparted.shrinks
    have hstop := range.last.value_lt
    have hsize : UInt32.size = 2 ^ 32 := rfl
    rw [List.length_reverse, List.map_reverse, List.sum_reverse] at hgrowing
    rw [List.length_append]
    exact add_le_of_two_pow_add_le (by omega)

/-- As many blocks are needed for all addresses but the first and the last. -/
example : (⟨.ofOctets 0 0 0 1, .ofOctets 255 255 255 254⟩ : AddressRange).blocks.length = 62 := by
  decide +kernel

end AddressRange

end ContainerNetwork
