import ContainerNetwork.Host.Call
import ContainerNetwork.Program

/-!
# Plans

A plan is a program whose requests are calls to the host.  An `Operation` is a plan that may end in
a failure.
-/

namespace ContainerNetwork

abbrev Plan := Program Call.Answer

/-- One call. -/
def Plan.call (call : Call) : Plan call.Answer := .ask call .done

abbrev Operation (α : Type) := ExceptT Failure Plan α

namespace Operation

/-- A call whose fault ends the operation. -/
def host {α : Type} (plan : Plan (Except HostFault α)) : Operation α :=
  ExceptT.mk ((·.mapError Failure.host) <$> plan)

/-- The result of an operation as a value, so that its failure does not end what it is part of. -/
def result {α : Type} (operation : Operation α) : Operation (Except Failure α) :=
  ExceptT.lift (ExceptT.run operation)

def ofExcept {α : Type} (result : Except Failure α) : Operation α := ExceptT.mk (pure result)

/-- A call whose failure ends the operation. -/
def pool {α : Type} (plan : Plan (Except Failure α)) : Operation α := ExceptT.mk plan

/-- Waits without asking the host for anything. -/
def sleep (milliseconds : Nat) : Operation Unit := ExceptT.lift (.call (.sleep milliseconds))

end Operation

end ContainerNetwork
