import ContainerNetwork.Host.Policy.AclEntry
import ContainerNetwork.Host.Policy.BandwidthLimit
import ContainerNetwork.Host.Policy.PortForward
import ContainerNetwork.Json.Kept

/-!
# Endpoint policies

A policy is a forwarded port, an entry of the access control list or a bandwidth limit.  In JSON it
is the record of its kind with a further field `Type`.  That field may stand anywhere, so that the
whole policy is kept until its kind is known.
-/

namespace ContainerNetwork

inductive Policy where
  | nat (forward : PortForward)
  | acl (entry : AclEntry)
  | qos (limit : BandwidthLimit)
  deriving DecidableEq

namespace Policy

def tag : Policy → String
  | nat _ => "NAT"
  | acl _ => "ACL"
  | qos _ => "QOS"

def members : Policy → List (String × Json)
  | nat forward => forward.members
  | acl entry => entry.members
  | qos limit => limit.members

/-- The `Type` of a policy and what is left of the policy without it. -/
def untag? : Json → Option (String × Json)
  | .object members =>
      match members.partition (·.1 = some "Type") with
      | ([(_, .string (some tag))], rest) => some (tag, .object rest)
      | _ => none
  | .array (.string (some tag) :: rest) => some (tag, .array rest)
  | _ => none

/-- The policy of the kind that `tag` names. -/
def ofTagged? (tag : String) (json : Json) : Option Policy :=
  if tag = "NAT" then (Record.ofJson? PortForward.fields json >>= PortForward.ofRecord?).map nat
  else if tag = "ACL" then
    (Record.ofJson? AclEntry.fields json >>= AclEntry.ofRecord? .nullOrEmpty).map acl
  else if tag = "QOS" then
    (Record.ofJson? BandwidthLimit.fields json >>= BandwidthLimit.ofRecord?).map qos
  else none

/-- The greatest depth of a value that is kept, counted from the outermost container on. -/
def maxDepth : Nat := 127

/-- The policy that a value spells where `outer` containers are open around it. -/
def ofJsonWithin? (outer : Nat) (json : Json) : Option Policy :=
  if json.canKeep (maxDepth - outer) then
    untag? json >>= fun (tag, rest) => ofTagged? tag rest
  else none

instance : Wire Policy where
  toJson policy := .ofMembers (Record.member "Type" policy.tag ++ policy.members)
  ofJson? := ofJsonWithin? 0

end Policy

end ContainerNetwork
