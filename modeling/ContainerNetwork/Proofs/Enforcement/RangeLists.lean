import ContainerNetwork.Enforcement.Firewall
import ContainerNetwork.Proofs.Enforcement.Entries

/-!
# Lists of ranges are written without loss

A range is written as its two bounds with a dash between them, and a list as its ranges with commas
between them.  No bound has a dash or a comma of its own, so cutting a list at its commas and each
piece at its dash gives the bounds again.  To whoever enforces a list the empty text restricts
nothing; only the list without ranges has it.
-/

namespace ContainerNetwork

namespace Pieces

variable {α : Type} {read : String → Option α} {write : α → String}

/-- What stands on the two sides of the only dash of a text. -/
def bounds? (read : String → Option α) (text : String) : Option (α × α) :=
  match split '-' text.toList with
  | [first, last] => do return (← read (String.ofList first), ← read (String.ofList last))
  | _ => none

theorem bounds?_text (hread : ∀ bound, read (write bound) = some bound)
    (hdash : ∀ bound, '-' ∉ (write bound).toList) (first last : α) :
    bounds? read (write first ++ "-" ++ write last) = some (first, last) := by
  rw [bounds?, split_pair rfl (hdash first) (hdash last)]
  simp only [String.ofList_toList, hread]
  rfl

/-- What stands between the commas of a text; the empty text has nothing to be read. -/
def list? (read : String → Option α) (text : String) : Option (List α) :=
  if text = "" then some []
  else (split ',' text.toList).mapM fun piece => read (String.ofList piece)

/-- A way to write lists from which `read` gets every list back. -/
structure Lossless (read : String → Option (List α)) (write : List α → String) : Prop where
  read_write : ∀ items, read (write items) = some items
  write_eq_empty_iff : ∀ items, write items = "" ↔ items = []
  injective : Function.Injective write

theorem list?_join (hread : ∀ item, read (write item) = some item)
    (hcomma : ∀ item, ',' ∉ (write item).toList) (hne : ∀ item, (write item).toList ≠ [])
    (items : List α) : list? read (join "," (items.map write)) = some items := by
  have hempty : join "," (items.map write) = "" ↔ items = [] := join_map_eq_empty_iff hne
  rw [list?]
  -- cutting the empty text would give one empty piece, which is no item
  split
  · rename_i htext
    rw [hempty.mp htext]
  · rename_i htext
    have htexts : items.map write ≠ [] := mt List.map_eq_nil_iff.mp (mt hempty.mpr htext)
    have hcommas : ∀ piece ∈ items.map write, ',' ∉ piece.toList :=
      List.forall_mem_map.mpr fun item _ => hcomma item
    rw [split_join rfl htexts hcommas, List.map_map]
    exact mapM_map _ (fun item => by simp [hread]) items

/-- Texts that are neither empty nor have a comma make up lists without loss. -/
theorem lossless_join (hread : ∀ item, read (write item) = some item)
    (hcomma : ∀ item, ',' ∉ (write item).toList) (hne : ∀ item, (write item).toList ≠ []) :
    Lossless (list? read) fun items => join "," (items.map write) where
  read_write := list?_join hread hcomma hne
  write_eq_empty_iff _ := join_map_eq_empty_iff hne
  injective items others heq := by
    apply Option.some.inj
    calc some items
      _ = list? read (join "," (items.map write)) := (list?_join hread hcomma hne items).symm
      _ = list? read (join "," (others.map write)) := congrArg (list? read) heq
      _ = some others := list?_join hread hcomma hne others

end Pieces

namespace AddressRange

def ofText? (text : String) : Option AddressRange :=
  (Pieces.bounds? Address.ofText? text).map fun bounds => ⟨bounds.1, bounds.2⟩

def ofListText? (text : String) : Option (List AddressRange) := Pieces.list? ofText? text

theorem ofText?_text (range : AddressRange) : ofText? range.text = some range := by
  have hdash (address : Address) : '-' ∉ address.text.toList :=
    address.not_mem_text (by decide) (by decide)
  rw [ofText?, text, Pieces.bounds?_text Address.ofText?_text hdash]
  rfl

theorem listText_lossless : Pieces.Lossless ofListText? listText :=
  Pieces.lossless_join ofText?_text comma_not_mem_text text_ne_nil

end AddressRange

namespace PortRange

/-- A port: a decimal numeral of 16 bits. -/
def port? (text : String) : Option UInt16 :=
  ((Decimal.read? text.toList).filter (· < UInt16.size)).map Nat.toUInt16

def ofText? (text : String) : Option PortRange :=
  (Pieces.bounds? port? text).map fun bounds => ⟨bounds.1, bounds.2⟩

def ofListText? (text : String) : Option (List PortRange) := Pieces.list? ofText? text

theorem port?_text (port : UInt16) : port? (Decimal.text port.toNat) = some port := by
  have hlt : decide (port.toNat < UInt16.size) = true := decide_eq_true port.toNat_lt
  rw [port?, Decimal.read?_text, Option.filter_some, if_pos hlt, Option.map_some]
  exact congrArg some UInt16.ofNat_toNat

theorem ofText?_text (range : PortRange) : ofText? range.text = some range := by
  have hdash (port : UInt16) : '-' ∉ (Decimal.text port.toNat).toList :=
    Decimal.not_mem_text (by decide)
  rw [ofText?, text, Pieces.bounds?_text port?_text hdash]
  rfl

theorem comma_not_mem_text (range : PortRange) : ',' ∉ range.text.toList :=
  Pieces.not_mem_pair (Decimal.not_mem_text (by decide)) (by decide)
    (Decimal.not_mem_text (by decide))

theorem text_ne_nil (range : PortRange) : range.text.toList ≠ [] := by
  simp [text]

theorem listText_lossless : Pieces.Lossless ofListText? listText :=
  Pieces.lossless_join ofText?_text comma_not_mem_text text_ne_nil

end PortRange

/-- Lists of networks and lists of ports are read back from their texts, only the empty list has the
empty text, and no two lists have the same text. -/
theorem range_lists_lossless :
    Pieces.Lossless AddressRange.ofListText? AddressRange.listText ∧
      Pieces.Lossless PortRange.ofListText? PortRange.listText :=
  ⟨AddressRange.listText_lossless, PortRange.listText_lossless⟩

example : AddressRange.ofListText? "8.8.8.8-8.8.8.8,10.0.0.0-13.0.0.0" =
    some [.single (.ofOctets 8 8 8 8), ⟨.ofOctets 10 0 0 0, .ofOctets 13 0 0 0⟩] := by
  decide +kernel

/-! ## Rules of the host firewall -/

namespace Protocol

variable {protocol other : Protocol} {number : UInt16} {withPorts otherPorts : Bool}

theorem eq_of_outbound (hprotocol : protocol.outbound = .ok (number, withPorts))
    (hother : other.outbound = .ok (number, otherPorts)) : protocol = other := by
  cases protocol <;> cases hprotocol <;> cases other <;> cases hother <;> rfl

end Protocol

/-- A firewall rule tells the outbound rule that it comes from, the ports only where its protocol
has any. -/
theorem Firewall.outboundRule_inj {container : String} {rule other : OutboundRule}
    {address : Address} {created : FirewallRule}
    (hrule : outboundRule container rule address = .ok created)
    (hother : outboundRule container other address = .ok created) :
    rule.protocol = other.protocol ∧ rule.networks = other.networks ∧
      (rule.protocol = .tcp ∨ rule.protocol = .udp → rule.ports = other.ports) := by
  obtain ⟨⟨number, withPorts⟩, houtbound, hcreated⟩ := bind_eq_ok_iff.mp hrule
  obtain ⟨⟨otherNumber, otherPorts⟩, hothers, hsame⟩ := bind_eq_ok_iff.mp hother
  have heq := Except.ok.inj (hcreated.trans hsame.symm)
  have hnumber : number = otherNumber := congrArg FirewallRule.protocol heq
  have hnetworks : AddressRange.listText rule.networks = AddressRange.listText other.networks :=
    congrArg FirewallRule.remoteAddresses heq
  have hports : rule.remotePorts withPorts = other.remotePorts otherPorts :=
    congrArg FirewallRule.remotePorts heq
  subst hnumber
  have hprotocol := Protocol.eq_of_outbound houtbound hothers
  refine ⟨hprotocol, AddressRange.listText_lossless.injective hnetworks, fun hported => ?_⟩
  have hwith := Protocol.withPorts_of_outbound hported houtbound
  have hothersWith := Protocol.withPorts_of_outbound (hprotocol ▸ hported) hothers
  subst hwith hothersWith
  exact PortRange.listText_lossless.injective hports

end ContainerNetwork
