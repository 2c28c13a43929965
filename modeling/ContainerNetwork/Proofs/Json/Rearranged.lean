import ContainerNetwork.Proofs.Json.RoundTrip
import Mathlib.Data.List.Nodup
import Mathlib.Logic.Relation

/-!
# Rearranged values

What a record is read as depends neither on the order of its members nor on members that are no
fields of it, whatever these hold.  The same goes for the records inside it, at any depth.  A value
that is no record is read as a whole: where it is a map, every member of it counts.
-/

namespace ContainerNetwork

/-- Where the records are in the values that a reader takes. -/
inductive Shape where
  /-- A value that is read as a whole. -/
  | whole
  | list (item : Shape)
  | record (fields : List (String × Shape))

/-- One step from a value to another that differs in the arrangement of one record. -/
inductive Rearranges : Shape → Json → Json → Prop where
  /-- The members of a record change places. -/
  | order {fields : List (String × Shape)} {members others : List (Option String × Json)}
      (hperm : members.Perm others) :
      Rearranges (.record fields) (.object members) (.object others)
  /-- A record gets a member that is no field of it. -/
  | foreign {fields : List (String × Shape)} {name : String}
      (hforeign : name ∉ fields.map Prod.fst) (json : Json)
      (members : List (Option String × Json)) :
      Rearranges (.record fields) (.object members) (.object ((some name, json) :: members))
  /-- The value of a field is rearranged. -/
  | field {fields : List (String × Shape)} {name : String} {shape : Shape} {json other : Json}
      (hfield : (name, shape) ∈ fields) (hinside : Rearranges shape json other)
      (before after : List (Option String × Json)) :
      Rearranges (.record fields) (.object (before ++ (some name, json) :: after))
        (.object (before ++ (some name, other) :: after))
  /-- The same in a record that is spelt as an array of its fields. -/
  | place {fields : List (String × Shape)} {name : String} {shape : Shape} {json other : Json}
      {before : List Json} (hplace : fields[before.length]? = some (name, shape))
      (hinside : Rearranges shape json other) (after : List Json) :
      Rearranges (.record fields) (.array (before ++ json :: after))
        (.array (before ++ other :: after))
  /-- An item of a list is rearranged. -/
  | item {shape : Shape} {json other : Json} (hinside : Rearranges shape json other)
      (before after : List Json) :
      Rearranges (.list shape) (.array (before ++ json :: after))
        (.array (before ++ other :: after))

/-- Steps in either direction lead from one value to the other. -/
def Rearranged (shape : Shape) : Json → Json → Prop := Relation.EqvGen (Rearranges shape)

namespace Shape

variable {α : Type} {shape : Shape} {read : Json → Option α}

/-- A reader reads values the same that are one step apart. -/
def ReadAlike (shape : Shape) (read : Json → Option α) : Prop :=
  ∀ ⦃json other⦄, Rearranges shape json other → read json = read other

theorem readAlike_whole (read : Json → Option α) : whole.ReadAlike read := by
  intro json other hstep
  cases hstep

theorem ReadAlike.list (hitem : shape.ReadAlike read) : shape.list.ReadAlike (Json.list? read) := by
  intro json other hstep
  cases hstep with
  | item hinside before after =>
      simp only [Json.list?, List.mapM_append, List.mapM_cons, hitem hinside]

/-- What one step keeps, rearranging keeps. -/
theorem ReadAlike.rearranged (halike : shape.ReadAlike read) {json other : Json}
    (hrearranged : Rearranged shape json other) : read json = read other := by
  induction hrearranged with
  | rel json other hstep => exact halike hstep
  | refl json => rfl
  | symm json other _ ih => exact ih.symm
  | trans json middle other _ _ ihleft ihright => exact ihleft.trans ihright

end Shape

namespace Record

/-- The values that members of a name have, of which a record has at most one. -/
def valuesOf (name : String) (members : List (Option String × Json)) : List Json :=
  members.filterMap fun member => if member.1 = some name then some member.2 else none

theorem valuesOf_append (name : String) (members others : List (Option String × Json)) :
    valuesOf name (members ++ others) = valuesOf name members ++ valuesOf name others :=
  List.filterMap_append

@[simp]
theorem valuesOf_cons_self (name : String) (json : Json) (members : List (Option String × Json)) :
    valuesOf name ((some name, json) :: members) = json :: valuesOf name members :=
  List.filterMap_cons_some (if_pos rfl)

theorem valuesOf_cons_of_ne {name other : String} (hname : other ≠ name) (json : Json)
    (members : List (Option String × Json)) :
    valuesOf name ((some other, json) :: members) = valuesOf name members :=
  List.filterMap_cons_none (if_neg fun heq => hname (Option.some.inj heq))

/-- The members stand for a record: their names are texts, and no field is given twice. -/
def Distinct (fields : List String) (members : List (Option String × Json)) : Prop :=
  (∀ member ∈ members, member.1 ≠ none) ∧ ∀ name ∈ fields, (valuesOf name members).length ≤ 1

section Named

variable (name : String) (named : List (String × Json))

/-- Members with texts for names, as an object has them. -/
def ofNamed : List (Option String × Json) := named.map fun member => (some member.1, member.2)

theorem lookup_eq_head?_valuesOf :
    named.lookup name = (valuesOf name (ofNamed named)).head? := by
  induction named with
  | nil => rfl
  | cons member rest ih =>
      rw [ofNamed, List.map_cons]
      by_cases hname : name = member.1
      · subst hname
        rw [valuesOf_cons_self]
        exact List.lookup_cons_self
      · rw [valuesOf_cons_of_ne (Ne.symm hname), List.lookup_cons, beq_false_of_ne hname]
        exact ih

theorem length_valuesOf : (valuesOf name (ofNamed named)).length =
    (named.map Prod.fst).count name := by
  induction named with
  | nil => rfl
  | cons member rest ih =>
      rw [ofNamed, List.map_cons, List.map_cons]
      by_cases hname : member.1 = name
      · subst hname
        rw [valuesOf_cons_self, List.count_cons_self, List.length_cons]
        exact congrArg (· + 1) ih
      · rw [valuesOf_cons_of_ne hname, List.count_cons_of_ne hname]
        exact ih

theorem distinct_ofNamed_iff (fields : List String) :
    Distinct fields (ofNamed named) ↔ ((named.map Prod.fst).filter (· ∈ fields)).Nodup := by
  have htexts : ∀ member ∈ ofNamed named, member.1 ≠ none := by
    rw [ofNamed, List.forall_mem_map]
    exact fun _ _ => Option.some_ne_none _
  have hcount (name : String) (hfield : name ∈ fields) :
      ((named.map Prod.fst).filter (· ∈ fields)).count name =
        (valuesOf name (ofNamed named)).length := by
    rw [length_valuesOf]
    exact List.count_filter (p := fun name => name ∈ fields) (decide_eq_true hfield)
  rw [List.nodup_iff_count]
  constructor
  · intro hdistinct name
    by_cases hfield : name ∈ fields
    · rw [hcount name hfield]
      exact hdistinct.2 name hfield
    · have hzero : ((named.map Prod.fst).filter (· ∈ fields)).count name = 0 :=
        List.count_eq_zero_of_not_mem fun hmem =>
          hfield (of_decide_eq_true (List.mem_filter.mp hmem).2)
      omega
  · intro honce
    refine ⟨htexts, fun name hfield => ?_⟩
    rw [← hcount name hfield]
    exact honce name

end Named

variable {fields : List String} {members : List (Option String × Json)}

theorem exists_named (htexts : ∀ member ∈ members, member.1 ≠ none) :
    ∃ named, members = ofNamed named := by
  induction members with
  | nil => exact ⟨[], rfl⟩
  | cons member rest ih =>
      rw [List.forall_mem_cons] at htexts
      obtain ⟨name, hname⟩ := Option.ne_none_iff_exists'.mp htexts.1
      obtain ⟨named, rfl⟩ := ih htexts.2
      have hmember : member = (some name, member.2) := Prod.ext hname rfl
      exact ⟨(name, member.2) :: named, congrArg (· :: ofNamed named) hmember⟩

/-- A name that is no text spoils the members. -/
theorem mapM_name_eq_none (htexts : ¬∀ member ∈ members, member.1 ≠ none) :
    members.mapM (fun member : Option String × Json => member.1.map (·, member.2)) = none := by
  induction members with
  | nil => exact absurd (List.forall_mem_nil _) htexts
  | cons member rest ih =>
      rw [List.mapM_cons]
      rcases member with ⟨_ | name, json⟩
      · rfl
      · rw [List.forall_mem_cons] at htexts
        rw [ih fun hrest => htexts ⟨Option.some_ne_none name, hrest⟩]
        rfl

theorem ofMembers?_ofNamed (named : List (String × Json)) :
    ofMembers? fields (ofNamed named) =
      if ((named.map Prod.fst).filter (· ∈ fields)).Nodup then some fun field => named.lookup field
      else none := by
  have hnamed : (ofNamed named).mapM
      (fun member : Option String × Json => member.1.map (·, member.2)) = some named :=
    mapM_map (fun member : String × Json => (some member.1, member.2)) (fun _ => rfl) named
  rw [ofMembers?, hnamed]
  rfl

theorem ofMembers?_of_distinct (hdistinct : Distinct fields members) :
    ofMembers? fields members = some fun name => (valuesOf name members).head? := by
  obtain ⟨named, rfl⟩ := exists_named hdistinct.1
  rw [ofMembers?_ofNamed, if_pos ((distinct_ofNamed_iff named fields).mp hdistinct)]
  exact congrArg some (funext fun name => lookup_eq_head?_valuesOf name named)

theorem ofMembers?_of_not_distinct (hdistinct : ¬Distinct fields members) :
    ofMembers? fields members = none := by
  by_cases htexts : ∀ member ∈ members, member.1 ≠ none
  · obtain ⟨named, rfl⟩ := exists_named htexts
    rw [ofMembers?_ofNamed, if_neg (mt (distinct_ofNamed_iff named fields).mpr hdistinct)]
  · rw [ofMembers?, mapM_name_eq_none htexts]
    rfl

/-! ## One step -/

/-- The same value, or one that is a step apart. -/
def Near (shape : Shape) : Option Json → Option Json → Prop :=
  Option.Rel fun json other => json = other ∨ Rearranges shape json other

theorem Near.refl (shape : Shape) (value : Option Json) : Near shape value value := by
  cases value with
  | none => exact .none
  | some json => exact .some (.inl rfl)

theorem Near.of_eq {shape : Shape} {value other : Option Json} (heq : value = other) :
    Near shape value other := heq ▸ .refl shape value

/-- Records whose fields have near values. -/
def Alike (fields : List (String × Shape)) (record other : Record) : Prop :=
  ∀ field ∈ fields, Near field.2 (record field.1) (other field.1)

section Step

variable {fields : List (String × Shape)} {members others : List (Option String × Json)}
variable {name : String} {shape : Shape} {json other : Json}

theorem distinct_congr {fields : List String}
    (htexts : (∀ member ∈ members, member.1 ≠ none) ↔ ∀ member ∈ others, member.1 ≠ none)
    (hlength : ∀ name ∈ fields, (valuesOf name members).length = (valuesOf name others).length) :
    Distinct fields members ↔ Distinct fields others := by
  apply and_congr htexts
  apply forall₂_congr
  intro name hfield
  rw [hlength name hfield]

theorem ofMembers?_alike
    (hdistinct : Distinct (fields.map Prod.fst) members ↔ Distinct (fields.map Prod.fst) others)
    (hnear : Distinct (fields.map Prod.fst) members → ∀ field ∈ fields,
      Near field.2 (valuesOf field.1 members).head? (valuesOf field.1 others).head?) :
    Option.Rel (Alike fields) (ofMembers? (fields.map Prod.fst) members)
      (ofMembers? (fields.map Prod.fst) others) := by
  by_cases hmembers : Distinct (fields.map Prod.fst) members
  · rw [ofMembers?_of_distinct hmembers, ofMembers?_of_distinct (hdistinct.mp hmembers)]
    exact .some (hnear hmembers)
  · rw [ofMembers?_of_not_distinct hmembers, ofMembers?_of_not_distinct (mt hdistinct.mpr hmembers)]
    exact .none

theorem valuesOf_perm (hperm : members.Perm others) (name : String) :
    (valuesOf name members).Perm (valuesOf name others) := hperm.filterMap _

theorem order_alike (hperm : members.Perm others) :
    Option.Rel (Alike fields) (ofMembers? (fields.map Prod.fst) members)
      (ofMembers? (fields.map Prod.fst) others) := by
  apply ofMembers?_alike
  · apply distinct_congr
    · exact forall_congr' fun member => imp_congr_left hperm.mem_iff
    · exact fun name _ => (valuesOf_perm hperm name).length_eq
  · intro hdistinct field hfield
    have hvalues := valuesOf_perm hperm field.1
    have hone := hdistinct.2 field.1 (List.mem_map_of_mem hfield)
    apply Near.of_eq
    -- A list of at most one value has no other order.
    generalize valuesOf field.1 members = values at hvalues hone
    match values, hone with
    | [], _ => rw [hvalues.nil_eq]
    | [json], _ => rw [List.singleton_perm.mp hvalues]

theorem foreign_alike (hforeign : name ∉ fields.map Prod.fst) (json : Json)
    (members : List (Option String × Json)) :
    Option.Rel (Alike fields) (ofMembers? (fields.map Prod.fst) members)
      (ofMembers? (fields.map Prod.fst) ((some name, json) :: members)) := by
  have hvalues (known : String) (hknown : known ∈ fields.map Prod.fst) :
      valuesOf known ((some name, json) :: members) = valuesOf known members :=
    valuesOf_cons_of_ne (fun heq : name = known => hforeign (heq ▸ hknown)) json members
  apply ofMembers?_alike
  · apply distinct_congr
    · simp
    · exact fun known hknown => congrArg List.length (hvalues known hknown).symm
  · intro _ field hfield
    exact .of_eq (congrArg List.head? (hvalues field.1 (List.mem_map_of_mem hfield)).symm)

theorem eq_of_mem_of_name (hnames : (fields.map Prod.fst).Nodup) {field : String × Shape}
    (hfield : field ∈ fields) (hshape : (field.1, shape) ∈ fields) : field.2 = shape :=
  congrArg Prod.snd (List.inj_on_of_nodup_map hnames hfield hshape rfl)

theorem field_alike (hnames : (fields.map Prod.fst).Nodup) (hshape : (name, shape) ∈ fields)
    (hinside : Rearranges shape json other) (before after : List (Option String × Json)) :
    Option.Rel (Alike fields)
      (ofMembers? (fields.map Prod.fst) (before ++ (some name, json) :: after))
      (ofMembers? (fields.map Prod.fst) (before ++ (some name, other) :: after)) := by
  apply ofMembers?_alike
  · apply distinct_congr
    · simp only [List.forall_mem_append, List.forall_mem_cons]
    · intro known _
      rw [valuesOf_append, valuesOf_append, List.length_append, List.length_append]
      by_cases hname : name = known
      · subst hname
        rw [valuesOf_cons_self, valuesOf_cons_self, List.length_cons, List.length_cons]
      · rw [valuesOf_cons_of_ne hname, valuesOf_cons_of_ne hname]
  · intro _ field hfield
    rw [valuesOf_append, valuesOf_append]
    by_cases hname : name = field.1
    · subst hname
      rw [valuesOf_cons_self, valuesOf_cons_self]
      cases valuesOf field.1 before with
      | nil => exact .some (.inr (eq_of_mem_of_name hnames hfield hshape ▸ hinside))
      | cons first rest => exact .refl _ _
    · rw [valuesOf_cons_of_ne hname, valuesOf_cons_of_ne hname]
      exact .refl _ _

/-- An item of an array is the value of the field whose place it has. -/
theorem lookup_zip_near (hnames : (fields.map Prod.fst).Nodup)
    {before : List Json} (hplace : fields[before.length]? = some (name, shape))
    (hinside : Rearranges shape json other) (after : List Json) {field : String × Shape}
    (hfield : field ∈ fields) :
    Near field.2 (((fields.map Prod.fst).zip (before ++ json :: after)).lookup field.1)
      (((fields.map Prod.fst).zip (before ++ other :: after)).lookup field.1) := by
  induction fields generalizing before with
  | nil => cases hfield
  | cons head rest ih =>
      rw [List.map_cons, List.nodup_cons] at hnames
      cases before with
      | nil =>
          obtain rfl : head = (name, shape) := Option.some.inj hplace
          rcases List.mem_cons.mp hfield with rfl | hrest
          · simp only [List.map_cons, List.nil_append, List.zip_cons_cons, List.lookup_cons_self]
            exact .some (.inr hinside)
          · have hname : (field.1 == name) = false :=
              beq_false_of_ne fun heq : field.1 = name =>
                hnames.1 (heq ▸ List.mem_map_of_mem hrest : name ∈ rest.map Prod.fst)
            simp only [List.map_cons, List.nil_append, List.zip_cons_cons, List.lookup_cons, hname]
            exact .refl _ _
      | cons first more =>
          simp only [List.map_cons, List.cons_append, List.zip_cons_cons, List.lookup_cons]
          by_cases hname : field.1 = head.1
          · rw [hname, beq_self_eq_true]
            exact .refl _ _
          · rw [beq_false_of_ne hname]
            have hrest : field ∈ rest :=
              (List.mem_cons.mp hfield).resolve_left fun heq => hname (congrArg Prod.fst heq)
            exact ih hnames.2 hplace hrest

/-- One step leads from a record to one with near fields, and from no record to none. -/
theorem ofJson?_alike (hnames : (fields.map Prod.fst).Nodup)
    (hstep : Rearranges (.record fields) json other) :
    Option.Rel (Alike fields) (ofJson? (fields.map Prod.fst) json)
      (ofJson? (fields.map Prod.fst) other) := by
  cases hstep with
  | order hperm => exact order_alike hperm
  | foreign hforeign json members => exact foreign_alike hforeign json members
  | field hfield hinside before after => exact field_alike hnames hfield hinside before after
  | place hplace hinside after =>
      simp only [ofJson?, ofItems?, List.length_append, List.length_cons]
      split
      · exact .some fun field hfield => lookup_zip_near hnames hplace hinside after hfield
      · exact .none

end Step

end Record

end ContainerNetwork
