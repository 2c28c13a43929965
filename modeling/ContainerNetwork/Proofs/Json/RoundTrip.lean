import ContainerNetwork.Json.Wire
import ContainerNetwork.Proofs.Json.TokenText
import ContainerNetwork.Proofs.Json.TokenTree
import ContainerNetwork.Proofs.SortedMap

/-!
# Written values are read back

A type is `LawfulWire` when its values are written as plain JSON and read back from it.  For such a
type the text that is written for a value is read as that value.
-/

namespace ContainerNetwork

theorem Json.parse?_render {json : Json} (hplain : json.IsPlain) :
    Json.parse? json.render = some json := by
  rw [Json.parse?, Json.scan?_render hplain]
  exact Json.ofTokens?_tokens json

theorem mapM_map_of_read {α β γ : Type} {write : α → β} {read : β → Option γ} {meaning : α → γ}
    (hread : ∀ value, read (write value) = some (meaning value)) (values : List α) :
    (values.map write).mapM read = some (values.map meaning) := by
  induction values with
  | nil => rfl
  | cons value values ih => simp [hread, ih]

theorem mapM_map {α β : Type} (write : α → β) {read : β → Option α}
    (hread : ∀ value, read (write value) = some value) (values : List α) :
    (values.map write).mapM read = some values := by
  rw [mapM_map_of_read hread, List.map_id']

/-- Written members are read as a record, provided that no name is written twice. -/
theorem Record.ofJson?_ofMembers (fields : List String) (members : List (String × Json))
    (hnames : (members.map Prod.fst).Nodup) :
    Record.ofJson? fields (.ofMembers members) = some fun field => members.lookup field := by
  have hnamed : (members.map fun member => (some member.1, member.2)).mapM
      (fun member : Option String × Json => member.1.map (·, member.2)) = some members :=
    mapM_map (fun member => (some member.1, member.2)) (fun _ => rfl) members
  have hfields : ((members.map Prod.fst).filter (· ∈ fields)).Nodup := hnames.filter _
  simp only [Json.ofMembers, Record.ofJson?, Record.ofMembers?, hnamed]
  exact if_pos hfields

class LawfulWire (α : Type) [Wire α] : Prop where
  toJson_isPlain : ∀ value : α, (toJson value).IsPlain
  ofJson?_toJson : ∀ value : α, ofJson? (toJson value) = some value

attribute [simp] LawfulWire.ofJson?_toJson

namespace LawfulWire

theorem read?_text {α : Type} [Wire α] [LawfulWire α] (value : α) :
    Wire.read? (Wire.text value) = some value := by
  rw [Wire.read?, Wire.text, Json.parse?_render (toJson_isPlain value)]
  exact ofJson?_toJson value

theorem naturalBelow?_ofNat {bound number : Nat} (hbound : number < bound) :
    (Json.ofNat number).naturalBelow? bound = some number := by
  simp [Json.naturalBelow?, Json.ofNat, Numeral.natural?_ofNat, hbound]

/-- A number of a fixed width is read back from its digits. -/
theorem naturalBelow?_map {α : Type} {bound : Nat} {toNat : α → Nat} {ofNat : Nat → α}
    (hbound : ∀ number, toNat number < bound) (hofNat : ∀ number, ofNat (toNat number) = number)
    (number : α) :
    ((Json.ofNat (toNat number)).naturalBelow? bound).map ofNat = some number := by
  rw [naturalBelow?_ofNat (hbound number), Option.map_some, hofNat]

instance : LawfulWire UInt8 where
  toJson_isPlain number := .natural number.toNat
  ofJson?_toJson := naturalBelow?_map UInt8.toNat_lt fun _ => UInt8.ofNat_toNat

instance : LawfulWire UInt16 where
  toJson_isPlain number := .natural number.toNat
  ofJson?_toJson := naturalBelow?_map UInt16.toNat_lt fun _ => UInt16.ofNat_toNat

instance : LawfulWire UInt32 where
  toJson_isPlain number := .natural number.toNat
  ofJson?_toJson := naturalBelow?_map UInt32.toNat_lt fun _ => UInt32.ofNat_toNat

instance : LawfulWire UInt64 where
  toJson_isPlain number := .natural number.toNat
  ofJson?_toJson := naturalBelow?_map UInt64.toNat_lt fun _ => UInt64.ofNat_toNat

instance : LawfulWire String where
  toJson_isPlain text := .text text
  ofJson?_toJson _ := rfl

instance {α : Type} [Wire α] [LawfulWire α] : LawfulWire (List α) where
  toJson_isPlain values := .array fun item hitem => by
    obtain ⟨value, _, rfl⟩ := List.mem_map.mp hitem
    exact toJson_isPlain value
  ofJson?_toJson values := mapM_map toJson ofJson?_toJson values

instance {α : Type} [Wire α] [LawfulWire α] : LawfulWire (SortedMap String α) where
  toJson_isPlain map := .object fun member hmember => by
    obtain ⟨entry, _, rfl⟩ := List.mem_map.mp hmember
    exact toJson_isPlain entry.2
  ofJson?_toJson map := by
    have hmembers : (map.entries.map fun entry => (some entry.1, toJson entry.2)).mapM
        (fun member : Option String × Json => do
          return (← member.1, ← ofJson? (α := α) member.2)) = some map.entries :=
      mapM_map _ (fun entry => by simp [ofJson?_toJson]) map.entries
    change Json.map? ofJson? (.ofMembers _) = _
    rw [Json.ofMembers, List.map_map, Json.map?]
    simp only [Function.comp_def]
    rw [hmembers, Option.map_some, SortedMap.ofList_entries]

end LawfulWire

end ContainerNetwork
