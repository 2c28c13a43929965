import ContainerNetwork.Proofs.Address.Cover
import Mathlib.Data.Nat.Bitwise

/-!
# Blocks on words

The blocks of a range can be cut on words of 32 bits, with masks for the bits that a block's
addresses share.  Every operation on words is checked here: a sum past the last word, a difference
below zero or a shift by a word's whole width is no result.  Both loops end, the inner one as its
lengths shrink and the outer one as no word lies past the end of its block.  The texts that come out
are those of the blocks that `AddressRange.blocks` has, so that no operation is ever without a
result.
-/

namespace ContainerNetwork

namespace Word

/-- The sum of two words, where it is a word. -/
def add? (left right : UInt32) : Option UInt32 :=
  if left.toNat + right.toNat < UInt32.size then some (left + right) else none

/-- The difference of two words, where it is not negative. -/
def sub? (left right : UInt32) : Option UInt32 :=
  if right ≤ left then some (left - right) else none

/-- A word shifted to the left by less than its width. -/
def shiftLeft? (word amount : UInt32) : Option UInt32 :=
  if amount < 32 then some (word <<< amount) else none

def last : UInt32 := 0xffffffff

/-- The bits that the addresses of a block share; those of a block of all addresses share none, for
which the shift is too wide. -/
def mask? (length : UInt32) : Option UInt32 := do
  return (shiftLeft? last (← sub? 32 length)).getD 0

/-- The first address of the block of this length around an address. -/
def blockFirst? (address length : UInt32) : Option UInt32 := do
  return address &&& (← mask? length)

/-- The last address of the block of this length around an address. -/
def blockLast? (address length : UInt32) : Option UInt32 := do
  let mask ← mask? length
  return (address &&& mask) ||| ~~~mask

theorem toNat_lt_of_sub? {word rest : UInt32} (hrest : sub? word 1 = some rest) :
    rest.toNat < word.toNat := by
  rw [sub?] at hrest
  split at hrest
  case isTrue hone =>
    obtain rfl := Option.some.inj hrest
    have hpos := UInt32.le_iff_toNat_le.mp hone
    rw [UInt32.toNat_sub_of_le _ _ hone]
    rw [UInt32.toNat_one] at *
    omega
  case isFalse => cases hrest

/-- Doubles the block at `start` for as long as it begins there and ends by `stop`. -/
def widen? (start stop length : UInt32) : Option UInt32 :=
  if length = 0 then some length
  else
    match _ : sub? length 1 with
    | none => none
    | some wider => do
        if start ≠ (← blockFirst? start wider) ∨ stop < (← blockLast? start wider) then
          return length
        widen? start stop wider
termination_by length.toNat
decreasing_by exact toNat_lt_of_sub? ‹_›

theorem widen?_round {start stop length wider : UInt32} (hlength : length ≠ 0)
    (hwider : sub? length 1 = some wider) :
    widen? start stop length =
      blockFirst? start wider >>= fun first => blockLast? start wider >>= fun last =>
        if start ≠ first ∨ stop < last then some length else widen? start stop wider := by
  rw [widen?, if_neg hlength]
  split
  case h_1 hnone => cases hnone.symm.trans hwider
  case h_2 found hfound =>
    obtain rfl := Option.some.inj (hfound.symm.trans hwider)
    rfl

/-- No word lies past the end of its block. -/
theorem le_of_blockLast? {address length blockLast : UInt32}
    (hlast : blockLast? address length = some blockLast) : address.toNat ≤ blockLast.toNat := by
  obtain ⟨mask, _, hmask⟩ := Option.bind_eq_some_iff.mp hlast
  obtain rfl : (address &&& mask) ||| ~~~mask = blockLast := Option.some.inj hmask
  have hor : (address &&& mask) ||| ~~~mask = address ||| ~~~mask := by
    apply UInt32.toBitVec_inj.mp
    ext index hindex
    simp only [UInt32.toBitVec_or, UInt32.toBitVec_and, UInt32.toBitVec_not, BitVec.getElem_or,
      BitVec.getElem_and, BitVec.getElem_not]
    cases mask.toBitVec[index]
    · simp
    · simp
  rw [hor, UInt32.toNat_or]
  exact Nat.left_le_or

end Word

namespace Address

def word (address : Address) : UInt32 := .ofNatLT address.value address.value_lt

def ofWord (word : UInt32) : Address := ⟨word.toNat, word.toNat_lt⟩

@[simp]
theorem toNat_word (address : Address) : address.word.toNat = address.value :=
  UInt32.toNat_ofNatLT

@[simp]
theorem ofWord_word (address : Address) : ofWord address.word = address :=
  Address.ext address.toNat_word

end Address

namespace Word

theorem toNat_of_add? {word next : UInt32} (hnext : add? word 1 = some next) :
    next.toNat = word.toNat + 1 := by
  rw [add?] at hnext
  split at hnext
  case isTrue hsum =>
    obtain rfl := Option.some.inj hnext
    rw [UInt32.toNat_add, Nat.mod_eq_of_lt hsum, UInt32.toNat_one]
  case isFalse => cases hnext

/-- The texts of the blocks from `start` to `stop`; no block is looked for after the one that ends
at the last word. -/
def blockTexts? (start stop : UInt32) : Option (List String) :=
  if stop < start then some []
  else do
    let length ← widen? start stop 32
    let text := (Address.ofWord start).text ++ "/" ++ Decimal.text length.toNat
    match _ : blockLast? start length with
    | none => none
    | some blockLast =>
        if blockLast = last then return [text]
        match _ : add? blockLast 1 with
        | none => none
        | some next => return text :: (← blockTexts? next stop)
termination_by UInt32.size - start.toNat
decreasing_by
  have hstart := le_of_blockLast? ‹_›
  have hnext := toNat_of_add? ‹_›
  have hlt := next.toNat_lt
  rw [UInt32.size]
  omega

theorem blockTexts?_round {start stop length blockLast : UInt32} {text : String}
    (hordered : ¬stop < start) (hlength : widen? start stop 32 = some length)
    (htext : (Address.ofWord start).text ++ "/" ++ Decimal.text length.toNat = text)
    (hlast : blockLast? start length = some blockLast) :
    blockTexts? start stop =
      if blockLast = last then some [text]
      else add? blockLast 1 >>= fun next => (blockTexts? next stop).map (text :: ·) := by
  rw [blockTexts?, if_neg hordered, hlength]
  simp only [Option.bind_eq_bind, Option.bind_some, htext]
  split
  case h_1 hnone => cases hnone.symm.trans hlast
  case h_2 found hfound =>
    obtain rfl := Option.some.inj (hfound.symm.trans hlast)
    split
    case isTrue => rfl
    case isFalse =>
      split
      case h_1 hnone => rw [hnone]; rfl
      case h_2 next hnext =>
        rw [hnext, Option.bind_some, Option.map_eq_bind]
        rfl

/-! ## Masks -/

/-- A mask that is clear in its lowest bits clears those bits. -/
theorem and_mask {address bits : Nat} (hbits : bits ≤ 32) (haddress : address < 2 ^ 32) :
    address &&& (2 ^ 32 - 2 ^ bits) = address / 2 ^ bits * 2 ^ bits := by
  have hmask : 2 ^ 32 - 2 ^ bits = (2 ^ (32 - bits) - 1) * 2 ^ bits := by
    rw [Nat.sub_mul, Nat.one_mul, ← Nat.pow_add, Nat.sub_add_cancel hbits]
  apply Nat.eq_of_testBit_eq
  intro index
  rw [hmask, Nat.testBit_and, Nat.testBit_mul_two_pow, Nat.testBit_mul_two_pow,
    Nat.testBit_two_pow_sub_one, Nat.testBit_div_two_pow]
  by_cases hindex : bits ≤ index
  · rw [Nat.sub_add_cancel hindex]
    by_cases hhigh : index < 32
    · have hshared : index - bits < 32 - bits := by omega
      simp [hindex, hshared]
    · have hpow : 2 ^ 32 ≤ 2 ^ index := Nat.pow_le_pow_right (by decide) (by omega)
      rw [Nat.testBit_lt_two_pow (Nat.lt_of_lt_of_le haddress hpow)]
      simp
  · simp [hindex]

/-- No mask is shifted by more than its width: where the whole width is asked for, the mask is
zero. -/
theorem mask?_eq : ∀ length : Fin 33,
    mask? length.val.toUInt32 = some (UInt32.size - Block.width length).toUInt32 := by
  decide +kernel

variable {length : Nat}

theorem exists_mask (hlength : length ≤ 32) : ∃ mask, mask? length.toUInt32 = some mask ∧
    mask.toNat = 2 ^ 32 - Block.width length := by
  have hpos := Block.width_pos length
  refine ⟨_, mask?_eq ⟨length, Nat.lt_succ_of_le hlength⟩, ?_⟩
  exact UInt32.toNat_ofNat_of_lt' (Nat.sub_lt (by decide) hpos)

theorem exists_blockFirst (hlength : length ≤ 32) (address : UInt32) :
    ∃ first, blockFirst? address length.toUInt32 = some first ∧
      first.toNat = address.toNat / Block.width length * Block.width length := by
  obtain ⟨mask, hmask, hvalue⟩ := exists_mask hlength
  refine ⟨address &&& mask, by rw [blockFirst?, hmask]; rfl, ?_⟩
  rw [UInt32.toNat_and, hvalue]
  exact and_mask (Nat.sub_le 32 length) address.toNat_lt

theorem exists_blockLast (hlength : length ≤ 32) (address : UInt32) :
    ∃ last, blockLast? address length.toUInt32 = some last ∧
      last.toNat = address.toNat / Block.width length * Block.width length
        + (Block.width length - 1) := by
  obtain ⟨mask, hmask, hvalue⟩ := exists_mask hlength
  have hwidth : Block.width length ≤ 2 ^ 32 := Nat.pow_le_pow_right (by decide) (Nat.sub_le 32 _)
  have hpos := Block.width_pos length
  have hrest : (~~~mask).toNat = Block.width length - 1 := by
    have hsize : UInt32.size = 2 ^ 32 := rfl
    rw [UInt32.toNat_not, hvalue, hsize]
    omega
  refine ⟨(address &&& mask) ||| ~~~mask, by rw [blockLast?, hmask]; rfl, ?_⟩
  rw [UInt32.toNat_or, UInt32.toNat_and, hvalue, hrest]
  calc address.toNat &&& (2 ^ 32 - Block.width length) ||| Block.width length - 1
      = address.toNat / Block.width length * Block.width length ||| Block.width length - 1 :=
        congrArg (· ||| _) (and_mask (Nat.sub_le 32 length) address.toNat_lt)
    _ = Block.width length * (address.toNat / Block.width length) ||| Block.width length - 1 := by
        rw [Nat.mul_comm]
    _ = Block.width length * (address.toNat / Block.width length) + (Block.width length - 1) :=
        (Nat.two_pow_add_eq_or_of_lt (Nat.sub_lt hpos Nat.one_pos) _).symm
    _ = address.toNat / Block.width length * Block.width length + (Block.width length - 1) := by
        rw [Nat.mul_comm]

/-! ## Loops -/

/-- The comparisons of words decide whether a block fits. -/
theorem not_fits_iff {start stop first last : UInt32}
    (hfirst : first.toNat = start.toNat / Block.width length * Block.width length)
    (hlast : last.toNat = start.toNat / Block.width length * Block.width length
      + (Block.width length - 1)) :
    start ≠ first ∨ stop < last ↔ ¬Block.Fits start.toNat stop.toNat length := by
  have hpos := Block.width_pos length
  have hdivision := Nat.div_add_mod' start.toNat (Block.width length)
  rw [Block.Fits, not_and_or, Nat.not_le, UInt32.lt_iff_toNat_lt, ne_eq, ← UInt32.toNat_inj, hfirst,
    hlast]
  omega

theorem toNat_length (hlength : length ≤ 32) : length.toUInt32.toNat = length :=
  UInt32.toNat_ofNat_of_lt' (Nat.lt_of_le_of_lt hlength (by decide))

theorem sub?_one (hlength : length + 1 ≤ 32) :
    sub? (length + 1).toUInt32 1 = some length.toUInt32 := by
  have hlonger := toNat_length hlength
  have hone : (1 : UInt32) ≤ (length + 1).toUInt32 := by
    rw [UInt32.le_iff_toNat_le, hlonger]
    exact Nat.le_add_left 1 length
  rw [sub?, if_pos hone]
  refine congrArg some (UInt32.toNat_inj.mp ?_)
  rw [UInt32.toNat_sub_of_le _ _ hone, hlonger, toNat_length (Nat.le_of_succ_le hlength)]
  rfl

/-- The widest block that fits is found, from any narrower one on. -/
theorem widen?_eq {start stop : UInt32} (hwidest : Block.Widest start.toNat stop.toNat length)
    {narrower : Nat} (hle : length ≤ narrower) (hnarrower : narrower ≤ 32) :
    widen? start stop narrower.toUInt32 = some length.toUInt32 := by
  induction narrower with
  | zero =>
      obtain rfl := Nat.le_zero.mp hle
      rw [widen?]
      rfl
  | succ wider ih =>
      obtain ⟨first, hfirst, hfirstValue⟩ := exists_blockFirst (Nat.le_of_succ_le hnarrower) start
      obtain ⟨last, hlast, hlastValue⟩ := exists_blockLast (Nat.le_of_succ_le hnarrower) start
      have hnonzero : (wider + 1).toUInt32 ≠ 0 := by
        intro hzero
        have hvalue := toNat_length hnarrower
        rw [hzero] at hvalue
        cases hvalue
      have hfits : start ≠ first ∨ stop < last ↔ ¬Block.Fits start.toNat stop.toNat wider :=
        not_fits_iff hfirstValue hlastValue
      rw [widen?_round hnonzero (sub?_one hnarrower), hfirst, hlast]
      simp only [Option.bind_eq_bind, Option.bind_some]
      by_cases hwider : Block.Fits start.toNat stop.toNat wider
      · rw [if_neg (mt hfits.mp (not_not_intro hwider))]
        exact ih (hwidest.length_le _ hwider) (Nat.le_of_succ_le hnarrower)
      · rw [if_pos (hfits.mpr hwider)]
        have hstop : length = wider + 1 := by
          refine Nat.le_antisymm hle (Nat.lt_of_not_le fun hfit => ?_)
          exact hwider (hwidest.fits.narrower hfit)
        rw [hstop]

/-- One round of the loop: the widest block, and after it the blocks from the next word on, where
there is one. -/
theorem blockTexts?_of_widest {block : Block} {stop : UInt32}
    (hwidest : Block.Widest block.first.value stop.toNat block.length) :
    (block.first.value + Block.width block.length = UInt32.size ∧
        blockTexts? block.first.word stop = some [block.text]) ∨
      ∃ next : UInt32, next.toNat = block.first.value + Block.width block.length ∧
        blockTexts? block.first.word stop =
          (blockTexts? next stop).map (block.text :: ·) := by
  have hpos := Block.width_pos block.length
  have hstop := hwidest.fits.2
  have hordered : ¬stop < block.first.word := by
    rw [UInt32.lt_iff_toNat_lt, Address.toNat_word]
    omega
  have hwiden : widen? block.first.word stop 32 = some block.length.toUInt32 := by
    apply widen?_eq _ block.length_le (Nat.le_refl 32)
    rwa [Address.toNat_word]
  have htext : (Address.ofWord block.first.word).text ++ "/" ++
      Decimal.text block.length.toUInt32.toNat = block.text := by
    rw [Address.ofWord_word, toNat_length block.length_le]
    rfl
  obtain ⟨blockLast, hlast, hvalue⟩ := exists_blockLast block.length_le block.first.word
  rw [Address.toNat_word, Nat.div_mul_cancel (Nat.dvd_of_mod_eq_zero block.aligned)] at hvalue
  have hmax : last.toNat = UInt32.size - 1 := rfl
  have hsize : UInt32.size = 4294967296 := rfl
  have hlt := blockLast.toNat_lt
  rw [blockTexts?_round hordered hwiden htext hlast]
  by_cases hend : blockLast = last
  · rw [if_pos hend]
    rw [hend, hmax] at hvalue
    exact .inl ⟨by omega, rfl⟩
  · have hinside : blockLast.toNat + (1 : UInt32).toNat < UInt32.size := by
      have hne : blockLast.toNat ≠ last.toNat := fun heq => hend (UInt32.toNat_inj.mp heq)
      rw [UInt32.toNat_one]
      omega
    refine .inr ⟨blockLast + 1, ?_, ?_⟩
    · rw [UInt32.toNat_add, Nat.mod_eq_of_lt hinside, hvalue, UInt32.toNat_one]
      omega
    · rw [if_neg hend, add?, if_pos hinside]
      rfl

theorem blockTexts?_of_reversed {start stop : UInt32} (hreversed : stop.toNat < start.toNat) :
    blockTexts? start stop = some [] := by
  rw [blockTexts?, if_pos (UInt32.lt_iff_toNat_lt.mpr hreversed)]

/-- Cutting a range into blocks on words ends without an overflow, a negative difference or too wide
a shift, and gives the texts of the blocks of the range. -/
theorem blockTexts?_eq (range : AddressRange) :
    blockTexts? range.first.word range.last.word = some (range.blocks.map Block.text) := by
  by_cases hordered : range.Ordered
  · refine Block.cover_induction_of_le (motive := fun start blocks => ∀ word : UInt32,
      word.toNat = start → blockTexts? word range.last.word = some (blocks.map Block.text))
      ?_ ?_ hordered range.first.word range.first.toNat_word
    · intro block hwidest hend word hword
      obtain rfl : word = block.first.word := by
        rw [← UInt32.toNat_inj, hword, Address.toNat_word]
      rw [← range.last.toNat_word] at hwidest hend
      rcases blockTexts?_of_widest hwidest with ⟨_, htexts⟩ | ⟨next, hnext, htexts⟩
      · exact htexts
      · rw [htexts, blockTexts?_of_reversed (by omega)]
        rfl
    · intro block rest hwidest hmore hrest word hword
      obtain rfl : word = block.first.word := by
        rw [← UInt32.toNat_inj, hword, Address.toNat_word]
      have hlt := range.last.value_lt
      rw [← range.last.toNat_word] at hwidest
      rcases blockTexts?_of_widest hwidest with ⟨hend, _⟩ | ⟨next, hnext, htexts⟩
      · exact absurd hend (by omega)
      · rw [htexts, hrest next hnext]
        rfl
  · rw [blockTexts?_of_reversed, AddressRange.blocks_eq_nil_iff.mpr hordered]
    · rfl
    · rw [Address.toNat_word, Address.toNat_word]
      exact Nat.lt_of_not_le hordered

end Word

end ContainerNetwork
