import ContainerNetwork.Json.Wire
import ContainerNetwork.Text.Decimal
import ContainerNetwork.Text.Pieces

/-!
# IPv4 addresses

An address is a number of 32 bits, written as its four octets from the highest on.
-/

namespace ContainerNetwork

structure Address where
  value : Nat
  value_lt : value < UInt32.size
  deriving DecidableEq

namespace Address

/-- The address of four octets, the highest first. -/
def ofOctets (a b c d : UInt8) : Address :=
  ⟨((a.toNat * 256 + b.toNat) * 256 + c.toNat) * 256 + d.toNat, by
    have := a.toNat_lt
    have := b.toNat_lt
    have := c.toNat_lt
    have := d.toNat_lt
    have : UInt32.size = 4294967296 := rfl
    omega⟩

def unspecified : Address := ⟨0, by decide⟩

def broadcast : Address := ⟨UInt32.size - 1, by decide⟩

instance : Inhabited Address := ⟨unspecified⟩

def octets (address : Address) : List Nat :=
  [address.value / 256 / 256 / 256, address.value / 256 / 256 % 256, address.value / 256 % 256,
    address.value % 256]

def text (address : Address) : String := Pieces.join "." (address.octets.map Decimal.text)

/-- An octet: at most three digits, the first of several not zero. -/
def octet? (text : List Char) : Option UInt8 :=
  if text.length ≤ 3 ∧ (text.length ≤ 1 ∨ text.head? ≠ some '0') then
    ((Decimal.read? text).filter (· < 256)).map Nat.toUInt8
  else none

def ofText? (text : String) : Option Address :=
  match Pieces.split '.' text.toList with
  | [a, b, c, d] => do return ofOctets (← octet? a) (← octet? b) (← octet? c) (← octet? d)
  | _ => none

instance : Wire Address where
  toJson address := .ofText address.text
  ofJson? json := json.text? >>= ofText?

end Address

/-- All addresses from `first` to `last`; nothing asks that `first` come before `last`. -/
structure AddressRange where
  first : Address
  last : Address
  deriving DecidableEq

namespace AddressRange

def single (address : Address) : AddressRange := ⟨address, address⟩

def all : AddressRange := ⟨.unspecified, .broadcast⟩

instance : Inhabited AddressRange := ⟨all⟩

def coversAll (range : AddressRange) : Bool := range = all

def text (range : AddressRange) : String := range.first.text ++ "-" ++ range.last.text

/-- The addresses of a list of ranges as the host firewall writes them. -/
def listText (ranges : List AddressRange) : String := Pieces.join "," (ranges.map text)

instance : Wire AddressRange where
  toJson range := .ofMembers <| Record.member "start" range.first ++ Record.member "end" range.last
  ofJson? json := do
    let record ← Record.ofJson? ["start", "end"] json
    return { first := ← record.required "start", last := ← record.required "end" }

end AddressRange

end ContainerNetwork
