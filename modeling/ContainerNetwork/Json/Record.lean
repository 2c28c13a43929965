import ContainerNetwork.Json.Value

/-!
# Records in JSON

A record with named fields is written as an object.  It is read from an object, in which every
field may stand once, in any place and beside members that are no fields; or from an array of its
fields in writing order, whose last ones may be left out.
-/

namespace ContainerNetwork

/-- The values given for the fields of a record. -/
abbrev Record := String → Option Json

namespace Record

def ofMembers? (fields : List String) (members : List (Option String × Json)) : Option Record := do
  let named ← members.mapM fun member => member.1.map (·, member.2)
  if ((named.map Prod.fst).filter (· ∈ fields)).Nodup then some fun field => named.lookup field
  else none

def ofItems? (fields : List String) (items : List Json) : Option Record :=
  if items.length ≤ fields.length then some fun field => (fields.zip items).lookup field else none

/-- The record with these fields that a value spells. -/
def ofJson? (fields : List String) : Json → Option Record
  | .object members => ofMembers? fields members
  | .array items => ofItems? fields items
  | _ => none

end Record

end ContainerNetwork
