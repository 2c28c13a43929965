import ContainerNetwork.Failure
import ContainerNetwork.FileAction

/-!
# The state directory

What outlives a run lies in one directory: the pool file.
-/

namespace ContainerNetwork

structure StateDirectory where
  root : String := "/var/lib/sluice"
  deriving DecidableEq

namespace StateDirectory

/-- The path text of a name in the directory. -/
def join (directory : StateDirectory) (name : String) : String :=
  if directory.root.isEmpty || directory.root.endsWith "/" then directory.root ++ name
  else directory.root ++ "/" ++ name

def poolFile (directory : StateDirectory) : String := directory.join "ports.json"

/-- Makes the directory and all above it. -/
def make (directory : StateDirectory) : FileAction SetupFailure Unit :=
  (FileAction.makeDirectories (.ofText directory.root)).failingWith .io

end StateDirectory

end ContainerNetwork
