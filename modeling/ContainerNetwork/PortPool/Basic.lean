import ContainerNetwork.Json.Wire

/-!
# The port pool

The pool records which handle holds which port of the host.  In JSON it is grouped by handle; where
a port stands under several handles, the last of them in ascending order holds it.
-/

namespace ContainerNetwork

/-- The holder of each reserved port. -/
structure PortPool where
  holders : SortedMap UInt16 String
  deriving DecidableEq

namespace PortPool

def empty : PortPool := ⟨.empty⟩

instance : Inhabited PortPool := ⟨empty⟩

def holder? (pool : PortPool) (port : UInt16) : Option String := pool.holders.get? port

/-- The reserved ports in ascending order. -/
def ports (pool : PortPool) : List UInt16 := pool.holders.keys

/-- The ports that `handle` holds, in ascending order. -/
def portsHeldBy (pool : PortPool) (handle : String) : List UInt16 :=
  (pool.holders.filter fun _ holder => holder = handle).keys

/-- Reserves a free port for `handle`. -/
def reserve (pool : PortPool) (port : UInt16) (handle : String) : PortPool :=
  ⟨pool.holders.insertNew port handle⟩

/-- Frees all ports that `handle` holds. -/
def release (pool : PortPool) (handle : String) : PortPool :=
  ⟨pool.holders.filter fun _ holder => holder ≠ handle⟩

/-- The handles that hold a port, each with its ports. -/
def groups (pool : PortPool) : SortedMap String (List UInt16) :=
  (SortedMap.ofList (pool.holders.entries.map fun (_, handle) => (handle, ()))).mapValues
    fun handle _ => pool.portsHeldBy handle

def ofGroups (groups : SortedMap String (List UInt16)) : PortPool :=
  ⟨.ofList (groups.entries.flatMap fun (handle, ports) => ports.map (·, handle))⟩

instance : Wire PortPool where
  toJson pool := .ofMembers (Record.member "acquired_ports" pool.groups)
  ofJson? json := do
    let record ← Record.ofJson? ["acquired_ports"] json
    return ofGroups (← record.optional "acquired_ports" .empty)

end PortPool

end ContainerNetwork
