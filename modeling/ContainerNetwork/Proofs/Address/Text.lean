import ContainerNetwork.Address.Basic
import ContainerNetwork.Proofs.Address.Cover
import ContainerNetwork.Proofs.Text.Listed
import Mathlib.Data.Set.Defs

/-!
# Reading addresses, blocks and ranges

An address is read back from its text.  A block and a range are read as the addresses that they
contain, which is what the text of either says to whoever enforces it.
-/

namespace ContainerNetwork

namespace Address

theorem octet?_text : ∀ octet : Fin 256,
    octet? (Decimal.text octet).toList = some octet.val.toUInt8 := by
  decide +kernel

theorem octet?_text_of_lt {octet : Nat} (hoctet : octet < 256) :
    octet? (Decimal.text octet).toList = some octet.toUInt8 :=
  octet?_text ⟨octet, hoctet⟩

theorem octets_lt (address : Address) : ∀ octet ∈ address.octets, octet < 256 := by
  have hlt := address.value_lt
  have hsize : UInt32.size = 4294967296 := rfl
  intro octet hoctet
  simp only [octets, List.mem_cons, List.not_mem_nil, or_false] at hoctet
  omega

/-- The characters of an address are digits and dots. -/
theorem mem_text {address : Address} {c : Char} (hc : c ∈ address.text.toList) :
    c.isDigit ∨ c = '.' := by
  rw [text, Pieces.join, String.toList_intercalate] at hc
  rcases Pieces.mem_of_mem_intercalate hc with hdot | ⟨piece, hpiece, hc⟩
  · exact .inr (List.mem_singleton.mp hdot)
  · obtain ⟨text, htext, rfl⟩ := List.mem_map.mp hpiece
    obtain ⟨octet, _, rfl⟩ := List.mem_map.mp htext
    exact .inl (Decimal.isDigit_of_mem_text hc)

theorem split_text (address : Address) :
    Pieces.split '.' address.text.toList =
      address.octets.map fun octet => (Decimal.text octet).toList := by
  have hdot : ∀ piece ∈ address.octets.map Decimal.text, '.' ∉ piece.toList := by
    intro piece hpiece
    obtain ⟨octet, _, rfl⟩ := List.mem_map.mp hpiece
    exact Decimal.not_mem_text (by decide)
  rw [text, Pieces.split_join rfl (by simp [octets]) hdot, List.map_map]
  rfl

/-- An address is read back from its text. -/
theorem ofText?_text (address : Address) : ofText? address.text = some address := by
  obtain ⟨a, b, c, d, hoctets, hvalue⟩ : ∃ a b c d, address.octets = [a, b, c, d] ∧
      address.value = ((a * 256 + b) * 256 + c) * 256 + d :=
    ⟨_, _, _, _, rfl, by omega⟩
  have hlt := address.octets_lt
  rw [hoctets] at hlt
  have ha := hlt a (by simp)
  have hb := hlt b (by simp)
  have hc := hlt c (by simp)
  have hd := hlt d (by simp)
  rw [ofText?, split_text, hoctets]
  simp only [List.map_cons, List.map_nil, octet?_text_of_lt, ha, hb, hc, hd]
  refine congrArg some (Address.ext ?_)
  rw [hvalue]
  simp only [ofOctets, UInt8.toNat_ofNat_of_lt', ha, hb, hc, hd]

/-- No address has a character that is neither a digit nor a dot. -/
theorem not_mem_text (address : Address) {c : Char} (hdigit : c.isDigit = false) (hdot : c ≠ '.') :
    c ∉ address.text.toList := by
  intro hc
  rcases mem_text hc with hc | hc
  · rw [hdigit] at hc
    cases hc
  · exact hdot hc

end Address

namespace Block

/-- The addresses that the text of a block names. -/
def named? (text : List Char) : Option (Set Address) :=
  match Pieces.split '/' text with
  | [first, length] => do
      let first ← Address.ofText? (String.ofList first)
      let length ← (Decimal.read? length).filter (· ≤ 32)
      return {address | address.value / width length = first.value / width length}
  | _ => none

theorem split_text (block : Block) : Pieces.split '/' block.text.toList =
    [block.first.text.toList, (Decimal.text block.length).toList] := by
  have hslash : '/' ∉ block.first.text.toList := block.first.not_mem_text (by decide) (by decide)
  have hlength : '/' ∉ (Decimal.text block.length).toList := Decimal.not_mem_text (by decide)
  exact Pieces.split_pair rfl hslash hlength

theorem named?_text (block : Block) :
    named? block.text.toList = some {address | block.Contains address} := by
  have hle : decide (block.length ≤ 32) = true := decide_eq_true block.length_le
  rw [named?, split_text]
  simp only [String.ofList_toList, Address.ofText?_text, Decimal.read?_text]
  rw [Option.filter_some, if_pos hle]
  rfl

end Block

namespace AddressRange

/-- The addresses that the text of a range names. -/
def named? (text : List Char) : Option (Set Address) :=
  match Pieces.split '-' text with
  | [first, last] => do
      let first ← Address.ofText? (String.ofList first)
      let last ← Address.ofText? (String.ofList last)
      return {address | first.value ≤ address.value ∧ address.value ≤ last.value}
  | _ => none

theorem split_text (range : AddressRange) : Pieces.split '-' range.text.toList =
    [range.first.text.toList, range.last.text.toList] := by
  have hdash (address : Address) : '-' ∉ address.text.toList :=
    address.not_mem_text (by decide) (by decide)
  exact Pieces.split_pair rfl (hdash _) (hdash _)

theorem named?_text (range : AddressRange) :
    named? range.text.toList = some {address | range.Contains address} := by
  rw [named?, split_text]
  simp only [String.ofList_toList, Address.ofText?_text]
  rfl

end AddressRange

end ContainerNetwork
