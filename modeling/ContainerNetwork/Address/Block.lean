import ContainerNetwork.Address.Basic

/-!
# Address blocks

A block holds the addresses that share their highest bits, as many as its length says.  A range is
cut into blocks from its first address on, each as wide as the alignment of its first address and
the end of the range allow.
-/

namespace ContainerNetwork

/-- The number of addresses in a block of this length. -/
def Block.width (length : Nat) : Nat := Nat.pow 2 (32 - length)

structure Block where
  first : Address
  length : Nat
  length_le : length ≤ 32
  aligned : first.value % Block.width length = 0
  deriving DecidableEq

namespace Block

theorem width_pos (length : Nat) : 0 < width length := Nat.two_pow_pos _

def text (block : Block) : String := block.first.text ++ "/" ++ Decimal.text block.length

/-- Whether the block of this length that starts at `start` is aligned and ends by `stop`. -/
def Fits (start stop length : Nat) : Prop :=
  start % width length = 0 ∧ start + width length ≤ stop + 1

instance (start stop length : Nat) : Decidable (Fits start stop length) :=
  inferInstanceAs (Decidable (_ ∧ _))

/-- The length reached from `length` by doubling the block at `start` for as long as it fits. -/
def widen (start stop : Nat) : Nat → Nat
  | 0 => 0
  | length + 1 => if Fits start stop length then widen start stop length else length + 1

theorem widen_le (start stop length : Nat) : widen start stop length ≤ length := by
  induction length with
  | zero => exact Nat.le_refl 0
  | succ length ih =>
      rw [widen]
      split
      · omega
      · exact Nat.le_refl _

theorem fits_widen {start stop length : Nat} (h : Fits start stop length) :
    Fits start stop (widen start stop length) := by
  induction length with
  | zero => exact h
  | succ length ih =>
      rw [widen]
      split
      · exact ih ‹_›
      · exact h

/-- The longest length, that is the narrowest block, fits everywhere. -/
theorem fits_narrowest {start stop : Nat} (h : start ≤ stop) : Fits start stop 32 :=
  ⟨Nat.mod_one start, Nat.succ_le_succ h⟩

/-- The blocks that cover the addresses from `start` to `stop`. -/
def cover (start : Nat) (stop : Address) : List Block :=
  if h : start ≤ stop.value then
    let length := widen start stop.value 32
    have fits : Fits start stop.value length := fits_widen (fits_narrowest h)
    { first := ⟨start, Nat.lt_of_le_of_lt h stop.value_lt⟩
      length
      length_le := widen_le _ _ _
      aligned := fits.1 } :: cover (start + width length) stop
  else []
termination_by stop.value + 1 - start
decreasing_by
  have := width_pos (widen start stop.value 32)
  omega

end Block

namespace AddressRange

/-- The blocks of a range in ascending order; a reversed range has none. -/
def blocks (range : AddressRange) : List Block := Block.cover range.first.value range.last

end AddressRange

end ContainerNetwork
