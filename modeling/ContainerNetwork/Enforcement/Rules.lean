import ContainerNetwork.Settings
import ContainerNetwork.Enforcement.Firewall
import ContainerNetwork.Enforcement.PolicyEngine

/-!
# The two ways of enforcement

The configuration decides how the rules of a container are enforced.
-/

namespace ContainerNetwork.Enforcement

/-- Forwards a port to the container at `address`. -/
def forward (enforcement : Enforcement) (container : String) (rule : InboundRule)
    (address : Address) : Operation Inbound :=
  match enforcement with
  | policyEngine => PolicyEngine.forward container rule address
  | firewall => Firewall.forward container rule address

/-- Allows traffic from the container at `address`; the entry is none where the rule is in force
already. -/
def permit (enforcement : Enforcement) (container : String) (rule : OutboundRule)
    (address : Address) : Operation (Option AclEntry) :=
  match enforcement with
  | policyEngine => PolicyEngine.permit rule
  | firewall => Firewall.permit container rule address

def withdraw (enforcement : Enforcement) (container : String) : Operation Unit :=
  match enforcement with
  | policyEngine => PolicyEngine.withdraw container
  | firewall => Firewall.withdraw container

end ContainerNetwork.Enforcement
