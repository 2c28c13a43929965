import ContainerNetwork.Proofs.Json.Members
import ContainerNetwork.Proofs.Json.Rearranged

/-!
# Records read field by field

A record is read from the members that its fields have: each of them on its own, and those that are
absent as their defaults.  Which fields a type has is told by a list of them.  From it follow the
shape of the type and that rearranged values are read alike.
-/

namespace ContainerNetwork

/-- A type of values that are read alike wherever they have the same shape but for the arrangement
of their records. -/
class Shaped (α : Type) [Wire α] where
  shape : Shape
  readAlike : shape.ReadAlike (ofJson? : Json → Option α)

instance {α : Type} [Wire α] [Shaped α] : Shaped (List α) where
  shape := .list (Shaped.shape α)
  readAlike := Shaped.readAlike.list

/-- A type of values that hold no records. -/
@[reducible]
def Shaped.whole (α : Type) [Wire α] : Shaped α where
  shape := .whole
  readAlike := Shape.readAlike_whole _

/-- A field of a record.  A field without default has to be given. -/
structure RecordField (ρ : Type) where
  {α : Type}
  [wire : Wire α]
  [shaped : Shaped α]
  name : String
  default : Option α
  value : ρ → α

namespace RecordField

attribute [instance] wire shaped

variable {δ : Type} (field : RecordField δ) (members : List (String × Json))

/-- What is read for a field that is given, or that is absent. -/
def read? (given : Option Json) : Option field.α := given.elim field.default ofJson?

/-- What every member of the name is read as satisfies a predicate, and so does the default of a
field without one. -/
structure Reads (holds : Option field.α → Prop) : Prop where
  present : ∀ json, (field.name, json) ∈ members → holds (ofJson? json)
  absent : field.name ∉ members.map Prod.fst → holds field.default

/-- A member of the name can be read, and a field without one has a default. -/
def Readable : Prop := field.Reads members fun value => value.isSome

/-- A record has in the field what a member of the name is read as, or else the default. -/
def Has (record : δ) : Prop := field.Reads members fun value => value = some (field.value record)

end RecordField

section Laws

variable {ρ δ : Type} [Wire ρ]

/-- The objects that give no field twice are read field by field: there is a value exactly if every
field can be read, and that value is built from what the fields are read as. -/
def ReadFieldwise (fields : List (RecordField δ)) (build : δ → ρ) : Prop :=
  ∀ members : List (String × Json),
    ((members.map Prod.fst).filter (· ∈ fields.map RecordField.name)).Nodup →
    ((ofJson? (.ofMembers members) : Option ρ).isSome ↔
        ∀ field ∈ fields, field.Readable members) ∧
      ∀ value : ρ, ofJson? (.ofMembers members) = some value ↔
        ∃ record, build record = value ∧ ∀ field ∈ fields, field.Has members record

def Shape.ofFields (fields : List (RecordField δ)) : Shape :=
  .record (fields.map fun field => (field.name, Shaped.shape field.α))

/-- A type is read from the fields of a record, whatever value spells that record. -/
structure ReadsFields (fields : List (RecordField δ)) (build : δ → ρ) : Prop where
  nodup : (fields.map RecordField.name).Nodup
  ofJson?_eq_some_iff : ∀ json (value : ρ), ofJson? json = some value ↔
    ∃ given, Record.ofJson? (fields.map RecordField.name) json = some given ∧
      ∃ record, build record = value ∧
        ∀ field ∈ fields, field.read? (given field.name) = some (field.value record)
  complete : ∀ given : Record, (∀ field ∈ fields, (field.read? (given field.name)).isSome) →
    ∃ record, ∀ field ∈ fields, field.read? (given field.name) = some (field.value record)

end Laws

/-! ## Lookups -/

namespace Record

theorem required_eq_elim {α : Type} [Wire α] (record : Record) (field : String) :
    (record.required field : Option α) = (record field).elim none Wire.ofJson? := by
  rw [required_eq]
  cases record field with
  | none => rfl
  | some json => rfl

theorem mem_valuesOf {name : String} {json : Json} {named : List (String × Json)} :
    json ∈ valuesOf name (ofNamed named) ↔ (name, json) ∈ named := by
  simp [valuesOf, ofNamed, and_comm]

end Record

namespace RecordField

variable {δ : Type} {field : RecordField δ}

theorem read?_of_near {given other : Option Json}
    (hnear : Record.Near (Shaped.shape field.α) given other) :
    field.read? given = field.read? other := by
  cases hnear with
  | none => rfl
  | some hnear =>
      rcases hnear with rfl | hstep
      · rfl
      · exact Shaped.readAlike hstep

/-- Where at most one member has the name of a field, the field is read from that member. -/
theorem read?_lookup_iff {members : List (String × Json)}
    (hone : (Record.valuesOf field.name (Record.ofNamed members)).length ≤ 1)
    (holds : Option field.α → Prop) :
    holds (field.read? (members.lookup field.name)) ↔ field.Reads members holds := by
  have hmem (json : Json) : (field.name, json) ∈ members ↔
      json ∈ Record.valuesOf field.name (Record.ofNamed members) := Record.mem_valuesOf.symm
  have hnames : field.name ∈ members.map Prod.fst ↔ ∃ json, (field.name, json) ∈ members := by
    simp
  rw [Record.lookup_eq_head?_valuesOf]
  match hvalues : Record.valuesOf field.name (Record.ofNamed members), hone with
  | [], _ =>
      simp only [hvalues, List.not_mem_nil, iff_false] at hmem
      have habsent : field.name ∉ members.map Prod.fst := fun hname =>
        (hnames.mp hname).elim hmem
      exact ⟨fun hdefault => ⟨fun json hjson => (hmem json hjson).elim, fun _ => hdefault⟩,
        fun hreads => hreads.absent habsent⟩
  | [json], _ =>
      simp only [hvalues, List.mem_singleton] at hmem
      have hpresent : field.name ∈ members.map Prod.fst := hnames.mpr ⟨json, (hmem json).mpr rfl⟩
      exact ⟨fun hvalue => ⟨fun other hother => (hmem other).mp hother ▸ hvalue,
        fun habsent => absurd hpresent habsent⟩,
        fun hreads => hreads.present json ((hmem json).mpr rfl)⟩

end RecordField

namespace ReadsFields

variable {ρ δ : Type} [Wire ρ] {fields : List (RecordField δ)} {build : δ → ρ}

theorem ofRecord {read : Record → Option ρ}
    (hofJson : ∀ json, (ofJson? json : Option ρ) =
      Record.ofJson? (fields.map RecordField.name) json >>= read)
    (hnodup : (fields.map RecordField.name).Nodup)
    (hread : ∀ given value, read given = some value ↔ ∃ record, build record = value ∧
      ∀ field ∈ fields, field.read? (given field.name) = some (field.value record))
    (hcomplete : ∀ given : Record, (∀ field ∈ fields, (field.read? (given field.name)).isSome) →
      ∃ record, ∀ field ∈ fields, field.read? (given field.name) = some (field.value record)) :
    ReadsFields fields build where
  nodup := hnodup
  ofJson?_eq_some_iff json value := by
    rw [hofJson, Option.bind_eq_bind, Option.bind_eq_some_iff]
    exact exists_congr fun given => and_congr_right fun _ => hread given value
  complete := hcomplete

/-- Rearranged values are read alike. -/
theorem readAlike (hreads : ReadsFields fields build) :
    (Shape.ofFields fields).ReadAlike (ofJson? : Json → Option ρ) := by
  intro json other hstep
  have hnames : (fields.map fun field => (field.name, Shaped.shape field.α)).map Prod.fst =
      fields.map RecordField.name := by
    rw [List.map_map]
    rfl
  have halike := Record.ofJson?_alike (hnames ▸ hreads.nodup) hstep
  rw [hnames] at halike
  ext value
  rw [hreads.ofJson?_eq_some_iff, hreads.ofJson?_eq_some_iff]
  generalize Record.ofJson? (fields.map RecordField.name) json = given at halike
  generalize Record.ofJson? (fields.map RecordField.name) other = others at halike
  cases halike with
  | none => rfl
  | some halike =>
      simp only [Option.some.injEq, exists_eq_left']
      apply exists_congr
      intro record
      apply and_congr_right
      intro _
      apply forall₂_congr
      intro field hfield
      rw [RecordField.read?_of_near (halike _ (List.mem_map_of_mem hfield))]

/-- Objects are read field by field. -/
theorem readFieldwise (hreads : ReadsFields fields build) : ReadFieldwise fields build := by
  intro members honce
  have hdistinct : Record.Distinct (fields.map RecordField.name) (Record.ofNamed members) :=
    (Record.distinct_ofNamed_iff members _).mpr honce
  have hgiven : Record.ofJson? (fields.map RecordField.name) (.ofMembers members) =
      some fun name => members.lookup name := by
    change Record.ofMembers? _ (Record.ofNamed members) = _
    rw [Record.ofMembers?_ofNamed, if_pos honce]
  have hone (field : RecordField δ) (hfield : field ∈ fields) :
      (Record.valuesOf field.name (Record.ofNamed members)).length ≤ 1 :=
    hdistinct.2 field.name (List.mem_map_of_mem hfield)
  have hread (record : δ) (field : RecordField δ) (hfield : field ∈ fields) :
      field.read? (members.lookup field.name) = some (field.value record) ↔
        field.Has members record :=
    RecordField.read?_lookup_iff (hone field hfield) fun value => value = some (field.value record)
  have hreadable (field : RecordField δ) (hfield : field ∈ fields) :
      (field.read? (members.lookup field.name)).isSome ↔ field.Readable members :=
    RecordField.read?_lookup_iff (hone field hfield) fun value => value.isSome
  have hvalue (value : ρ) : ofJson? (.ofMembers members) = some value ↔
      ∃ record, build record = value ∧ ∀ field ∈ fields, field.Has members record := by
    rw [hreads.ofJson?_eq_some_iff, hgiven]
    simp only [Option.some.injEq, exists_eq_left']
    apply exists_congr
    intro record
    exact and_congr_right fun _ => forall₂_congr (hread record)
  refine ⟨?_, hvalue⟩
  rw [Option.isSome_iff_exists]
  constructor
  · rintro ⟨value, hsome⟩ field hfield
    obtain ⟨record, _, hhas⟩ := (hvalue value).mp hsome
    rw [← hreadable field hfield, (hread record field hfield).mpr (hhas field hfield)]
    rfl
  · intro hall
    obtain ⟨record, hrecord⟩ := hreads.complete (fun name => members.lookup name)
      fun field hfield => (hreadable field hfield).mpr (hall field hfield)
    exact ⟨build record, (hvalue _).mpr ⟨record, rfl, fun field hfield =>
      (hread record field hfield).mp (hrecord field hfield)⟩⟩

end ReadsFields

end ContainerNetwork
