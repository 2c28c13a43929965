import ContainerNetwork.CommandLine.Arguments
import ContainerNetwork.Settings
import ContainerNetwork.Handle
import ContainerNetwork.Request

/-!
# Running the command line

An invocation reads its configuration, its handle and, to bring a container up, its request, and
then needs the control plane of the host.  There is none on this platform, so that every run ends in
a failure, shown as the chain of its explanations, the outermost first.
-/

namespace ContainerNetwork.CommandLine

/-- The name of the platform on which no control plane is to be had. -/
def platform : String := "linux"

/-- Ends every run that got so far. -/
def noControlPlane : SetupFailure :=
  .unsupported ("container network control plane on " ++ platform)

/-- The explanations of a configuration that could not be loaded. -/
def configChain (path : String) (failure : SetupFailure) : List String :=
  let context := "Failed to load config " ++ path
  match failure with
  | .io => [context, failure.message, detail]
  | _ => [context, failure.message]

/-- The explanations of an input that is no request. -/
def inputChain (input : ByteArray) : List String :=
  match String.fromUTF8? input with
  | none => [detail]
  | some text =>
      if (Request.ofInput? text).isSome then [noControlPlane.message]
      else ["Failed to parse up inputs", detail]

/-- Runs an invocation; `load` loads the configuration that a path names. -/
def run (invocation : Invocation) (load : String → Except SetupFailure Settings)
    (input : ByteArray) : List String :=
  match invocation.configFile.map fun path => (path, load path) with
  | some (path, .error failure) => configChain path failure
  | _ =>
      match invocation.handle with
      | none => [noControlPlane.message]
      | some handle =>
          if Handle.IsValid handle then
            if invocation.subcommand = .up then inputChain input else [noControlPlane.message]
          else [(SetupFailure.invalidHandle handle).message]

/-- What a run writes to its standard output. -/
inductive Output where
  | nothing
  | help
  | version (text : String)
  deriving DecidableEq

structure Outcome where
  exitCode : UInt32
  output : Output
  /-- The explanations of the failure, if the arguments were carried out. -/
  chain : List String

def versionText (subcommand : Option Subcommand) : String :=
  (subcommand.map fun subcommand => "sluice-" ++ subcommand.name).getD "sluice" ++ " 0.1.0"

def helpText : String :=
  "Usage: sluice [--root PATH] [--config-file PATH] [--debug] COMMAND\n\n"
    ++ "Commands:\n"
    ++ "  create              Create the shared network\n"
    ++ "  delete              Delete the shared network\n"
    ++ "  up --handle H       Bring up the network of a container (request on standard input)\n"
    ++ "  down --handle H     Take down the network of a container\n"
    ++ "  help                Print this message\n"

def Rejection.output : Rejection → Output
  | help => .help
  | version subcommand => .version (versionText subcommand)
  | _ => .nothing

/-- The whole program. -/
def outcome (arguments : List String) (environmentRoot : Option String)
    (load : String → Except SetupFailure Settings) (input : ByteArray) : Outcome :=
  match readArguments arguments environmentRoot with
  | .error rejection => ⟨rejection.exitCode, rejection.output, []⟩
  | .ok invocation => ⟨1, .nothing, run invocation load input⟩

end ContainerNetwork.CommandLine
