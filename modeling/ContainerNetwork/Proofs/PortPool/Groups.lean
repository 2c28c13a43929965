import ContainerNetwork.Proofs.PortPool.Assignment
import ContainerNetwork.Proofs.PortPool.Content
import ContainerNetwork.Proofs.Text.ByteOrder

/-!
# The groups of a pool file

A pool file may have been written by hand.  Its text lists groups, each a handle with ports, in any
order: a handle may be repeated, and then its last group counts; a port may be repeated within a
group and stand in several of them; a group may be empty.  Whatever is listed, the pool that is read
has the listed ports, and a port belongs to the greatest of the handles that list it.  What is
written for a pool lists it in one way only, so that writing a pool file anew changes it once at
most.
-/

namespace ContainerNetwork.PortPool

/-- A handle with ports, as a text lists them. -/
abbrev Group := String × List UInt16

def Group.ofMember? (member : Option String × Json) : Option Group := do
  return (← member.1, ← ofJson? member.2)

/-- The groups of a record that is a pool, in their order and with their repetitions. -/
def listingOf? (record : Record) : Option (List Group) :=
  match record "acquired_ports" with
  | none => some []
  | some (.object members) => members.mapM Group.ofMember?
  | some _ => none

/-- The groups that the content of a pool file lists; a blank one lists none. -/
def listing? (content : ByteArray) : Option (List Group) := do
  let text ← String.fromUTF8? content
  if Text.isBlank text then some []
  else Json.parse? text >>= Record.ofJson? ["acquired_ports"] >>= listingOf?

/-- The group that counts for `handle` lists `port`. -/
def ListedFor (listing : List Group) (port : UInt16) (handle : String) : Prop :=
  ∃ ports, SortedMap.LastBinding handle ports listing ∧ port ∈ ports

/-- A pool has the ports that are listed, each held by the handle that comes last in byte order of
those that list it. -/
structure Records (listing : List Group) (pool : PortPool) : Prop where
  listed : ∀ port, port ∈ pool.ports ↔ ∃ handle, ListedFor listing port handle
  greatest : ∀ port handle, pool.holder? port = some handle ↔
    ListedFor listing port handle ∧
      ∀ other, ListedFor listing port other → Text.bytes other ≤ Text.bytes handle

/-- The one way to list a pool: handles ascend in byte order, each with at least one port, and the
ports of each ascend and are those of no other. -/
structure Canonical (listing : List Group) : Prop where
  handles : listing.Pairwise fun left right => Text.bytes left.1 < Text.bytes right.1
  inhabited : ∀ group ∈ listing, group.2 ≠ []
  ports : ∀ group ∈ listing, group.2.Pairwise (· < ·)
  disjoint : listing.Pairwise fun left right => left.2.Disjoint right.2

/-- The content that is written for the pool that a content holds. -/
def rewritten? (old : ByteArray) : Option ByteArray := (ofContent? old).map content

/-- The pool of a listing. -/
def ofListing (listing : List Group) : PortPool := ofGroups (.ofList listing)

/-- The bindings of ports to handles that groups stand for, in the order of the groups. -/
def bindings (groups : SortedMap String (List UInt16)) : List (UInt16 × String) :=
  groups.entries.flatMap fun (handle, ports) => ports.map (·, handle)

variable {listing : List Group} {old : ByteArray} {pool : PortPool}
variable {groups : SortedMap String (List UInt16)} {port : UInt16} {handle : String}

/-! ## Reading -/

theorem optional_eq_map_listingOf? (record : Record) :
    (record.optional "acquired_ports" .empty).map ofGroups =
      (listingOf? record).map ofListing := by
  rw [Record.optional_eq, listingOf?]
  cases record "acquired_ports" with
  | none => rfl
  | some json =>
      cases json with
      | object members =>
          change ((members.mapM Group.ofMember?).map SortedMap.ofList).map ofGroups = _
          rw [Option.map_map]
          rfl
      | _ => rfl

theorem ofJson?_eq_map_listingOf? (json : Json) :
    (ofJson? json : Option PortPool) =
      (Record.ofJson? ["acquired_ports"] json >>= listingOf?).map ofListing :=
  calc (ofJson? json : Option PortPool)
    _ = (Record.ofJson? ["acquired_ports"] json).bind fun record =>
        (record.optional "acquired_ports" .empty).map ofGroups := by
      simp only [Option.map_eq_bind]
      rfl
    _ = _ := by
      simp only [optional_eq_map_listingOf?, Option.bind_eq_bind, Option.map_bind,
        Function.comp_def]

/-- The pool that a content holds is that of the groups it lists. -/
theorem ofContent?_eq_map_listing? : ofContent? old = (listing? old).map ofListing := by
  rw [ofContent?, listing?]
  cases String.fromUTF8? old with
  | none => rfl
  | some text =>
      simp only [Option.bind_eq_bind, Option.bind_some]
      split
      · rfl
      · rw [Wire.read?, funext ofJson?_eq_map_listingOf?]
        cases Json.parse? text <;> rfl

theorem mem_bindings :
    (port, handle) ∈ bindings groups ↔ ∃ ports, groups.get? handle = some ports ∧ port ∈ ports := by
  simp only [bindings, List.mem_flatMap, List.mem_map, SortedMap.get?_eq_some_iff]
  constructor
  · rintro ⟨⟨holder, ports⟩, hgroup, listed, hlisted, heq⟩
    obtain ⟨rfl, rfl⟩ := Prod.mk.inj heq
    exact ⟨ports, hgroup, hlisted⟩
  · rintro ⟨ports, hgroup, hport⟩
    exact ⟨(handle, ports), hgroup, port, hport, rfl⟩

/-- Groups are gone through in ascending order of their handles. -/
theorem bindings_ascending (groups : SortedMap String (List UInt16)) :
    (bindings groups).Pairwise fun earlier later => earlier.2 ≤ later.2 := by
  rw [bindings, List.pairwise_flatMap]
  constructor
  · intro group _
    exact List.pairwise_map.mpr (List.pairwise_of_forall fun _ _ => Std.le_refl _)
  · refine groups.ascending.imp fun hlt earlier hearlier later hlater => ?_
    obtain ⟨_, _, rfl⟩ := List.mem_map.mp hearlier
    obtain ⟨_, _, rfl⟩ := List.mem_map.mp hlater
    exact Std.le_of_lt hlt

theorem holder?_ofGroups :
    (ofGroups groups).holder? port = some handle ↔
      SortedMap.LastBinding port handle (bindings groups) :=
  SortedMap.get?_ofList

theorem listedFor_iff :
    ListedFor listing port handle ↔ (port, handle) ∈ bindings (.ofList listing) := by
  simp only [ListedFor, mem_bindings, SortedMap.get?_ofList]

theorem records_ofListing (listing : List Group) : Records listing (ofListing listing) where
  listed port := by
    simp only [mem_ports, Option.ne_none_iff_exists', ofListing, holder?_ofGroups, listedFor_iff,
      SortedMap.LastBinding.exists_iff, List.mem_map, Prod.exists, exists_eq_right,
      exists_and_right]
  greatest port handle := by
    simp only [listedFor_iff, Text.bytes_le_bytes_iff]
    exact holder?_ofGroups.trans (SortedMap.LastBinding.iff_greatest (bindings_ascending _))

/-- No other pool has the listed ports and holders. -/
theorem Records.eq (hrecords : Records listing pool) : pool = ofListing listing := by
  apply ext_holder?
  intro port
  ext handle
  rw [hrecords.greatest, (records_ofListing listing).greatest]

/-! ## Writing -/

theorem listing?_content (pool : PortPool) : listing? pool.content = some pool.groups.entries := by
  have htext : String.fromUTF8? pool.content = some (Wire.text pool) :=
    dif_pos (Wire.text pool).isValidUTF8
  have hparse : Json.parse? (Wire.text pool) = some (toJson pool) :=
    Json.parse?_render (LawfulWire.toJson_isPlain pool)
  have hrecord : Record.ofJson? ["acquired_ports"] (toJson pool) =
      some fun field => (Record.member "acquired_ports" pool.groups).lookup field :=
    (Record.Spells.member "acquired_ports" pool.groups).ofJson? (by decide)
  have hmembers : (pool.groups.entries.map fun group => (some group.1, toJson group.2)).mapM
      Group.ofMember? = some pool.groups.entries :=
    mapM_map _ (fun group => by simp [Group.ofMember?]) _
  have hlisting : listingOf? (fun field =>
      (Record.member "acquired_ports" pool.groups).lookup field) = some pool.groups.entries := by
    simp only [listingOf?, Record.lookup_member, if_true]
    change (List.map _ (pool.groups.entries.map _)).mapM Group.ofMember? = _
    rw [List.map_map]
    exact hmembers
  rw [listing?, htext, Option.bind_eq_bind, Option.bind_some, Json.isBlank_eq_false hparse, hparse,
    if_neg Bool.false_ne_true]
  change (Record.ofJson? ["acquired_ports"] (toJson pool)).bind listingOf? = _
  rw [hrecord, Option.bind_some, hlisting]

theorem canonical_groups (pool : PortPool) : Canonical pool.groups.entries where
  handles := pool.groups.ascending.imp Text.bytes_lt_of_lt
  inhabited := by
    rintro ⟨handle, ports⟩ hgroup hempty
    obtain ⟨⟨port, hport⟩, rfl⟩ := mem_groups.mp hgroup
    exact List.ne_nil_of_mem (mem_portsHeldBy.mpr hport) hempty
  ports := by
    rintro ⟨handle, ports⟩ hgroup
    obtain ⟨_, rfl⟩ := mem_groups.mp hgroup
    exact SortedMap.keys_ascending _
  disjoint := by
    apply pool.groups.ascending.imp_of_mem
    intro left right hleft hright hlt port hport hother
    rw [(mem_groups.mp hleft).2, mem_portsHeldBy] at hport
    rw [(mem_groups.mp hright).2, mem_portsHeldBy] at hother
    exact Std.lt_irrefl (pool.holders.value_unique hport hother ▸ hlt)

/-- What is written for a pool is read as that pool, so it is written as it stands. -/
theorem rewritten?_bind {α : Type} {read : ByteArray → Option α} {meaning : PortPool → α}
    (hread : ∀ pool : PortPool, read pool.content = some (meaning pool)) :
    (rewritten? old).bind read = (ofContent? old).map meaning := by
  rw [rewritten?]
  cases ofContent? old with
  | none => rfl
  | some pool => exact hread pool

/-- Whatever groups a content lists, the pool it holds has the listed ports, each with the greatest
handle that lists it; what is written for a pool lists it canonically; and writing the pool of a
content anew keeps the holders and, done again, the content. -/
theorem content_normalizes :
    (∀ old pool, ofContent? old = some pool ↔
      ∃ listing, listing? old = some listing ∧ Records listing pool) ∧
    (∀ pool : PortPool, ∃ listing, listing? pool.content = some listing ∧ Canonical listing ∧
      Records listing pool) ∧
    (∀ old, (rewritten? old).bind rewritten? = rewritten? old) ∧
    ∀ old, (rewritten? old).bind ofContent? = ofContent? old := by
  refine ⟨fun old pool => ?_, fun pool => ?_, fun old => ?_, fun old => ?_⟩
  · rw [ofContent?_eq_map_listing?, Option.map_eq_some_iff]
    constructor
    · rintro ⟨listing, hlisting, rfl⟩
      exact ⟨listing, hlisting, records_ofListing listing⟩
    · rintro ⟨listing, hlisting, hrecords⟩
      exact ⟨listing, hlisting, hrecords.eq.symm⟩
  · have hwritten : ofListing pool.groups.entries = pool := by
      rw [ofListing, SortedMap.ofList_entries, ofGroups_groups]
    have hrecords := records_ofListing pool.groups.entries
    rw [hwritten] at hrecords
    exact ⟨pool.groups.entries, listing?_content pool, canonical_groups pool, hrecords⟩
  · exact rewritten?_bind fun pool => by rw [rewritten?, ofContent?_content, Option.map_some]
  · calc (rewritten? old).bind ofContent?
      _ = (ofContent? old).map id := rewritten?_bind ofContent?_content
      _ = ofContent? old := congrFun Option.map_id _

/-- A file that repeats a handle and contests a port: the first group of `c2` does not count, and
the port 3 is that of `c2` because `c10` comes before it. -/
example :
    (ofContent?
        ("\x7b\"acquired_ports\":\x7b\"c2\":[9],\"c10\":[3,7,3],\"c2\":[3]\x7d\x7d").toUTF8).map
        (fun pool => pool.holders.entries) =
      some [(3, "c2"), (7, "c10")] := by
  decide +kernel

end ContainerNetwork.PortPool
