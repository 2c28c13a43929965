import ContainerNetwork.Proofs.Json.RoundTrip

/-!
# Reading back records

A record is written as members that stand in the order of its fields, of which some may be left
out.  Such members are read as a record in which every field that was written has its value.
-/

namespace ContainerNetwork

namespace Record

variable {α : Type} [Wire α]

@[simp]
theorem lookup_member (field name : String) (value : α) :
    (member name value).lookup field = if field = name then some (toJson value) else none := by
  by_cases hfield : field = name
  · simp [member, hfield]
  · have hother : (field == name) = false := by simpa using hfield
    simp [member, List.lookup_cons, hother, hfield]

@[simp]
theorem lookup_memberUnless (absent : Bool) (field name : String) (value : α) :
    (memberUnless absent name value).lookup field =
      if absent then none else if field = name then some (toJson value) else none := by
  cases absent with
  | true => rfl
  | false => exact lookup_member field name value

@[simp]
theorem lookup_ofOption {β : Type} (write : β → α) (field name : String) (value : Option β) :
    ((value.map fun value => member name (write value)).getD []).lookup field =
      if field = name then value.map fun value => toJson (write value) else none := by
  cases value with
  | none => simp
  | some value => simp

section Values

variable {P : Json → Prop} {β : Type} {write : β → α} {value : α}

/-- What holds of a value holds of the member that is written for it. -/
theorem forall_mem_member (hvalue : P (toJson value)) (name : String) :
    ∀ written ∈ member name value, P written.2 := by
  simpa [member] using hvalue

theorem forall_mem_memberUnless (hvalue : P (toJson value)) (absent : Bool) (name : String) :
    ∀ written ∈ memberUnless absent name value, P written.2 := by
  cases absent with
  | true => simp [memberUnless]
  | false => exact forall_mem_member hvalue name

theorem forall_mem_ofOption (hvalue : ∀ value, P (toJson (write value))) (name : String)
    (value : Option β) :
    ∀ written ∈ (value.map fun value => member name (write value)).getD [], P written.2 := by
  cases value with
  | none => simp
  | some value => exact forall_mem_member (hvalue value) name

end Values

/-- Members that spell some of the fields of a record, in the order of the fields. -/
structure Spells (fields : List String) (members : List (String × Json)) : Prop where
  names : (members.map Prod.fst).Sublist fields
  plain : ∀ member ∈ members, member.2.IsPlain

namespace Spells

variable {fields others : List String} {members further : List (String × Json)}

theorem nil (fields : List String) : Spells fields [] where
  names := List.nil_sublist fields
  plain := by simp

theorem append (hmembers : Spells fields members) (hfurther : Spells others further) :
    Spells (fields ++ others) (members ++ further) where
  names := by
    rw [List.map_append]
    exact hmembers.names.append hfurther.names
  plain member hmember := by
    rcases List.mem_append.mp hmember with hmember | hmember
    · exact hmembers.plain member hmember
    · exact hfurther.plain member hmember

theorem member [LawfulWire α] (name : String) (value : α) :
    Spells [name] (member name value) where
  names := List.Sublist.refl [name]
  plain := forall_mem_member (LawfulWire.toJson_isPlain value) name

theorem memberUnless [LawfulWire α] (absent : Bool) (name : String) (value : α) :
    Spells [name] (memberUnless absent name value) := by
  cases absent with
  | true => exact nil [name]
  | false => exact member name value

/-- A member that is written only where there is a value for it. -/
theorem ofOption {β : Type} [LawfulWire α] (write : β → α) (name : String) (value : Option β) :
    Spells [name] ((value.map fun value => Record.member name (write value)).getD []) := by
  cases value with
  | none => exact nil [name]
  | some value => exact member name (write value)

theorem and [LawfulWire α] (hmembers : Spells fields members) (name : String) (value : α) :
    Spells (fields ++ [name]) (members ++ Record.member name value) :=
  hmembers.append (member name value)

theorem isPlain (hmembers : Spells fields members) : (Json.ofMembers members).IsPlain :=
  .object hmembers.plain

theorem ofJson? (hmembers : Spells fields members) (hfields : fields.Nodup) :
    Record.ofJson? fields (.ofMembers members) = some fun field => members.lookup field :=
  Record.ofJson?_ofMembers fields members (hmembers.names.nodup hfields)

/-- What is read from the fields that were written is read from the object. -/
theorem bind_ofJson? {β : Type} {read : Record → Option β} {value : β}
    (hmembers : Spells fields members) (hfields : fields.Nodup)
    (hread : read (fun field => members.lookup field) = some value) :
    (Record.ofJson? fields (.ofMembers members) >>= read) = some value := by
  rw [hmembers.ofJson? hfields]
  exact hread

end Spells

/-! ## Fields -/

theorem required_eq (record : Record) (field : String) :
    (record.required field : Option α) = (record field).bind Wire.ofJson? := rfl

theorem optionalBy_eq {β : Type} (read : Json → Option β) (record : Record) (field : String)
    (default : β) :
    record.optionalBy read field default = (record field).elim (some default) read := by
  rw [optionalBy]
  cases record field with
  | none => rfl
  | some json => rfl

theorem optional_eq (record : Record) (field : String) (default : α) :
    record.optional field default = (record field).elim (some default) Wire.ofJson? :=
  optionalBy_eq Wire.ofJson? record field default

/-- A field that is left out only where it has its default is read as what it is. -/
@[simp]
theorem elim_unless [LawfulWire α] {absent : Prop} [Decidable absent] {value default : α}
    (hdefault : absent → value = default) :
    (if absent then none else some (toJson value)).elim (some default) Wire.ofJson? =
      some value := by
  split
  · rename_i habsent
    rw [hdefault habsent]
    rfl
  · exact LawfulWire.ofJson?_toJson value

/-- A value that is left out where it is none is read as none there. -/
theorem elim_nullable? {β : Type} {read : Json → Option β} {write : β → Json}
    (hnull : ∀ value, write value ≠ .null) (hread : ∀ value, read (write value) = some value)
    (value : Option β) :
    value.elim (some none) (Json.nullable? read ∘ write) = some value := by
  cases value with
  | none => rfl
  | some value =>
      rw [Option.elim_some, Function.comp_apply, Json.nullable?, hread, Option.map_some]
      exact hnull value

end Record

/-- A type that is written as a record and read from it is lawful where the written fields are read
back. -/
theorem LawfulWire.ofRecord {α : Type} [Wire α] {fields : List String}
    {members : α → List (String × Json)} {read : Record → Option α}
    (htoJson : ∀ value : α, toJson value = .ofMembers (members value))
    (hofJson : ∀ json, (ofJson? json : Option α) = Record.ofJson? fields json >>= read)
    (hfields : fields.Nodup) (hspells : ∀ value, Record.Spells fields (members value))
    (hread : ∀ value, read (fun field => (members value).lookup field) = some value) :
    LawfulWire α where
  toJson_isPlain value := by
    rw [htoJson]
    exact (hspells value).isPlain
  ofJson?_toJson value := by
    rw [htoJson, hofJson]
    exact (hspells value).bind_ofJson? hfields (hread value)


end ContainerNetwork
