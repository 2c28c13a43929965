import ContainerNetwork.Json.Reader
import ContainerNetwork.Json.Record
import ContainerNetwork.Json.Writer
import ContainerNetwork.SortedMap

/-!
# Types with a JSON form

`Wire` gives a type its JSON value and the reading of it; `Wire.text` and `Wire.read?` are the same
on texts.  The integers, texts, lists and maps that the records of this library consist of have
their instances here.
-/

namespace ContainerNetwork

class Wire (α : Type) where
  toJson : α → Json
  ofJson? : Json → Option α

export Wire (toJson ofJson?)

namespace Wire

variable {α : Type} [Wire α]

def text (value : α) : String := (toJson value).render

def read? (text : String) : Option α := Json.parse? text >>= ofJson?

end Wire

namespace Record

variable {α : Type}

/-- A field that has to be given. -/
def required [Wire α] (record : Record) (field : String) : Option α :=
  record field >>= Wire.ofJson?

/-- A field read by `read` that stands for `default` where it is left out. -/
def optionalBy (read : Json → Option α) (record : Record) (field : String) (default : α) :
    Option α :=
  match record field with
  | none => some default
  | some json => read json

/-- A field that stands for `default` where it is left out. -/
def optional [Wire α] (record : Record) (field : String) (default : α) : Option α :=
  record.optionalBy Wire.ofJson? field default

/-- A member of a record that is being written. -/
def member [Wire α] (field : String) (value : α) : List (String × Json) := [(field, toJson value)]

/-- A member that is left out when `absent` holds. -/
def memberUnless [Wire α] (absent : Bool) (field : String) (value : α) : List (String × Json) :=
  if absent then [] else member field value

end Record

namespace Json

/-- A natural number below `bound`, written without sign, fraction and exponent. -/
def naturalBelow? (bound : Nat) : Json → Option Nat
  | .number numeral => numeral.natural?.filter (· < bound)
  | _ => none

def text? : Json → Option String
  | .string text => text
  | _ => none

/-- A list whose items are read by `read`. -/
def list? {α : Type} (read : Json → Option α) : Json → Option (List α)
  | .array items => items.mapM read
  | _ => none

/-- A value read by `read`, or `null` for none. -/
def nullable? {α : Type} (read : Json → Option α) : Json → Option (Option α)
  | .null => some none
  | json => (read json).map some

/-- A map from texts; of two members of one name the later counts. -/
def map? {α : Type} (read : Json → Option α) : Json → Option (SortedMap String α)
  | .object members =>
      (members.mapM fun (member : Option String × Json) => do
        return (← member.1, ← read member.2)).map SortedMap.ofList
  | _ => none

/-- How the payload of a name without payload may be spelt. -/
inductive Payload where
  | null
  | nullOrEmpty
  deriving DecidableEq

/-- A name: a string, or an object with the name as its one member and no payload. -/
def name? (payload : Payload) : Json → Option String
  | .string text => text
  | .object [(name, .null)] => name
  | .object [(name, .object [])] => if payload = .nullOrEmpty then name else none
  | _ => none

end Json

namespace Wire

instance : Wire UInt8 where
  toJson number := .ofNat number.toNat
  ofJson? json := (json.naturalBelow? UInt8.size).map Nat.toUInt8

instance : Wire UInt16 where
  toJson number := .ofNat number.toNat
  ofJson? json := (json.naturalBelow? UInt16.size).map Nat.toUInt16

instance : Wire UInt32 where
  toJson number := .ofNat number.toNat
  ofJson? json := (json.naturalBelow? UInt32.size).map Nat.toUInt32

instance : Wire UInt64 where
  toJson number := .ofNat number.toNat
  ofJson? json := (json.naturalBelow? UInt64.size).map Nat.toUInt64

instance : Wire String where
  toJson := .ofText
  ofJson? := Json.text?

instance {α : Type} [Wire α] : Wire (List α) where
  toJson items := .array (items.map toJson)
  ofJson? := Json.list? ofJson?

instance {α : Type} [Wire α] : Wire (SortedMap String α) where
  toJson map := .ofMembers (map.entries.map fun entry => (entry.1, toJson entry.2))
  ofJson? := Json.map? ofJson?

end Wire

end ContainerNetwork
