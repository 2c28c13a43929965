import ContainerNetwork.Plan

/-!
# Commands in a container

`netsh` is run inside a container with its privileges and within a time limit.
-/

namespace ContainerNetwork.ContainerCommand

/-- The time limit of a command in milliseconds, where none is given. -/
def defaultTimeout : Nat := 2000

/-- Runs `netsh` with these arguments. -/
def run (container : String) (arguments : List String) (timeout : Nat := defaultTimeout) :
    Operation Unit := do
  let command := "netsh " ++ Pieces.join " " arguments
  match ← Operation.host (.call (.exec container command timeout)) with
  | .timedOut => throw (.commandTimeout command container timeout)
  | .exited code => if code ≠ 0 then throw (.commandFailed command container code)

/-- Lets the unprivileged users of the container serve HTTP on a port. -/
def permitHttp (container : String) (port : UInt32) (timeout : Nat := defaultTimeout) :
    Operation Unit :=
  run container
    ["http", "add", "urlacl", "url=http://*:" ++ Decimal.text port.toNat ++ "/", "user=Users"]
    timeout

end ContainerNetwork.ContainerCommand
