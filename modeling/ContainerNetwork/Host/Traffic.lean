/-!
# Traffic

What firewall rules and access control lists say of traffic: its direction and what becomes of it.
-/

namespace ContainerNetwork

inductive Verdict where
  | allow
  | block
  deriving DecidableEq

/-- The direction of traffic as the container sees it. -/
inductive Direction where
  | inbound
  | outbound
  deriving DecidableEq

namespace Verdict

def name : Verdict → String
  | allow => "Allow"
  | block => "Block"

def ofName? (name : String) : Option Verdict :=
  if name = "Allow" then some allow else if name = "Block" then some block else none

theorem ofName?_name (verdict : Verdict) : ofName? verdict.name = some verdict := by
  cases verdict <;> rfl

end Verdict

namespace Direction

def name : Direction → String
  | inbound => "In"
  | outbound => "Out"

def ofName? (name : String) : Option Direction :=
  if name = "In" then some inbound else if name = "Out" then some outbound else none

theorem ofName?_name (direction : Direction) : ofName? direction.name = some direction := by
  cases direction <;> rfl

end Direction

end ContainerNetwork
