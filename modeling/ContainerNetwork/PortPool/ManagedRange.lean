import ContainerNetwork.Failure
import ContainerNetwork.PortPool.Basic

/-!
# Managed ports

The managed range is the part of the port space from which free ports are given out: `capacity`
ports from `start` on, as far as the port space reaches.
-/

namespace ContainerNetwork

structure ManagedRange where
  start : UInt16
  capacity : UInt16
  deriving DecidableEq

namespace ManagedRange

/-- The number after the last managed port. -/
def stop (range : ManagedRange) : Nat :=
  min (range.start.toNat + range.capacity.toNat) UInt16.size

def Contains (range : ManagedRange) (port : UInt16) : Prop :=
  range.start.toNat ≤ port.toNat ∧ port.toNat < range.start.toNat + range.capacity.toNat

instance (range : ManagedRange) (port : UInt16) : Decidable (range.Contains port) :=
  inferInstanceAs (Decidable (_ ∧ _))

/-- The least number from `start` on that is not in an ascending list. -/
def leastFree (start : Nat) : List Nat → Nat
  | [] => start
  | taken :: rest =>
      if taken < start then leastFree start rest
      else if taken = start then leastFree (start + 1) rest
      else start

/-- The lowest managed port that is free. -/
def lowestFree? (range : ManagedRange) (pool : PortPool) : Option UInt16 :=
  let port := leastFree range.start.toNat (pool.ports.map UInt16.toNat)
  if port < range.stop then some port.toUInt16 else none

/-- Reserves the lowest free managed port. -/
def acquire (range : ManagedRange) (pool : PortPool) (handle : String) :
    Except Failure (UInt16 × PortPool) :=
  match range.lowestFree? pool with
  | none => .error .portPoolExhausted
  | some port => .ok (port, pool.reserve port handle)

end ManagedRange

end ContainerNetwork
