import ContainerNetwork.Json.Wire

/-!
# Container handles

A handle names a container and all that the host keeps for it: the endpoint, the firewall rules and
the ports in the pool.
-/

namespace ContainerNetwork

namespace Handle

def isAlphanumeric (c : Char) : Bool := c.isAlpha || c.isDigit

def isAllowed (c : Char) : Bool := isAlphanumeric c || c = '-' || c = '_' || c = '.'

def maxLength : Nat := 128

/-- A handle consists of 1 to 128 ASCII letters, digits, hyphens, underscores and dots and starts
with a letter or digit. -/
def IsValid (text : String) : Prop :=
  text.toList.length ≤ maxLength ∧ text.toList.head?.any isAlphanumeric ∧
    text.toList.all isAllowed

instance (text : String) : Decidable (IsValid text) := inferInstanceAs (Decidable (_ ∧ _ ∧ _))

end Handle

structure Handle where
  text : String
  valid : Handle.IsValid text
  deriving DecidableEq

namespace Handle

def ofText? (text : String) : Option Handle :=
  if valid : IsValid text then some ⟨text, valid⟩ else none

instance : Wire Handle where
  toJson handle := .ofText handle.text
  ofJson? json := json.text? >>= ofText?

end Handle

end ContainerNetwork
